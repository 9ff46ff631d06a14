/-!
# Names of emoji

The names under which emoji can be written between colons, in alphabetical order, each with the
code points that it stands for.
-/

namespace Crosslink.Console

/-- Names and code points in hexadecimal: an equals sign after each name, a dot between code
points, and a space or the end of a line after each entry. -/
def emojiNames : String :=
"+1=1F44D -1=1F44E 100=1F4AF 1234=1F522 1st_place_medal=1F947 2nd_place_medal=1F948
3rd_place_medal=1F949 8ball=1F3B1 __1=1F44E a=1F170 a_button_(blood_type)=1F170 ab=1F18E
ab_button_(blood_type)=1F18E abacus=1F9EE abc=1F524 abcd=1F521 accept=1F251
adhesive_bandage=1FA79 admission_tickets=1F39F adult=1F9D1 adult_dark_skin_tone=1F9D1.1F3FF
adult_light_skin_tone=1F9D1.1F3FB adult_medium-dark_skin_tone=1F9D1.1F3FE
adult_medium-light_skin_tone=1F9D1.1F3FC adult_medium_skin_tone=1F9D1.1F3FD
aerial_tramway=1F6A1 afghanistan=1F1E6.1F1EB airplane=2708 airplane_arrival=1F6EC
airplane_arriving=1F6EC airplane_departure=1F6EB alarm_clock=23F0 albania=1F1E6.1F1F1
alembic=2697 algeria=1F1E9.1F1FF alien=1F47D alien_monster=1F47E ambulance=1F691
american_football=1F3C8 american_samoa=1F1E6.1F1F8 amphora=1F3FA anchor=2693
andorra=1F1E6.1F1E9 angel=1F47C anger=1F4A2 anger_symbol=1F4A2 angola=1F1E6.1F1F4 angry=1F620
angry_face=1F620 angry_face_with_horns=1F47F anguilla=1F1E6.1F1EE anguished=1F627
anguished_face=1F627 ant=1F41C antarctica=1F1E6.1F1F6 antenna_bars=1F4F6
antigua_&_barbuda=1F1E6.1F1EC anxious_face_with_sweat=1F630 apple=1F34E aquarius=2652
argentina=1F1E6.1F1F7 aries=2648 armenia=1F1E6.1F1F2 arrow_backward=25C0 arrow_double_down=23EC
arrow_double_up=23EB arrow_down=2B07 arrow_down_small=1F53D arrow_forward=25B6
arrow_heading_down=2935 arrow_heading_up=2934 arrow_left=2B05 arrow_lower_left=2199
arrow_lower_right=2198 arrow_right=27A1 arrow_right_hook=21AA arrow_up=2B06 arrow_up_down=2195
arrow_up_small=1F53C arrow_upper_left=2196 arrow_upper_right=2197 arrows_clockwise=1F503
arrows_counterclockwise=1F504 art=1F3A8 articulated_lorry=1F69B artist_palette=1F3A8
aruba=1F1E6.1F1FC ascension_island=1F1E6.1F1E8 astonished=1F632 astonished_face=1F632
athletic_shoe=1F45F atm=1F3E7 atm_sign=1F3E7 atom_symbol=269B australia=1F1E6.1F1FA
austria=1F1E6.1F1F9 auto_rickshaw=1F6FA automobile=1F697 avocado=1F951 axe=1FA93
azerbaijan=1F1E6.1F1FF b=1F171 b_button_(blood_type)=1F171 baby=1F476 baby_angel=1F47C
baby_angel_dark_skin_tone=1F47C.1F3FF baby_angel_light_skin_tone=1F47C.1F3FB
baby_angel_medium-dark_skin_tone=1F47C.1F3FE baby_angel_medium-light_skin_tone=1F47C.1F3FC
baby_angel_medium_skin_tone=1F47C.1F3FD baby_bottle=1F37C baby_chick=1F424
baby_dark_skin_tone=1F476.1F3FF baby_light_skin_tone=1F476.1F3FB
baby_medium-dark_skin_tone=1F476.1F3FE baby_medium-light_skin_tone=1F476.1F3FC
baby_medium_skin_tone=1F476.1F3FD baby_symbol=1F6BC back=1F519 back_arrow=1F519
backhand_index_pointing_down=1F447 backhand_index_pointing_down_dark_skin_tone=1F447.1F3FF
backhand_index_pointing_down_light_skin_tone=1F447.1F3FB
backhand_index_pointing_down_medium-dark_skin_tone=1F447.1F3FE
backhand_index_pointing_down_medium-light_skin_tone=1F447.1F3FC
backhand_index_pointing_down_medium_skin_tone=1F447.1F3FD backhand_index_pointing_left=1F448
backhand_index_pointing_left_dark_skin_tone=1F448.1F3FF
backhand_index_pointing_left_light_skin_tone=1F448.1F3FB
backhand_index_pointing_left_medium-dark_skin_tone=1F448.1F3FE
backhand_index_pointing_left_medium-light_skin_tone=1F448.1F3FC
backhand_index_pointing_left_medium_skin_tone=1F448.1F3FD backhand_index_pointing_right=1F449
backhand_index_pointing_right_dark_skin_tone=1F449.1F3FF
backhand_index_pointing_right_light_skin_tone=1F449.1F3FB
backhand_index_pointing_right_medium-dark_skin_tone=1F449.1F3FE
backhand_index_pointing_right_medium-light_skin_tone=1F449.1F3FC
backhand_index_pointing_right_medium_skin_tone=1F449.1F3FD backhand_index_pointing_up=1F446
backhand_index_pointing_up_dark_skin_tone=1F446.1F3FF
backhand_index_pointing_up_light_skin_tone=1F446.1F3FB
backhand_index_pointing_up_medium-dark_skin_tone=1F446.1F3FE
backhand_index_pointing_up_medium-light_skin_tone=1F446.1F3FC
backhand_index_pointing_up_medium_skin_tone=1F446.1F3FD bacon=1F953 badger=1F9A1
badminton=1F3F8 badminton_racquet_and_shuttlecock=1F3F8 bagel=1F96F baggage_claim=1F6C4
baguette_bread=1F956 bahamas=1F1E7.1F1F8 bahrain=1F1E7.1F1ED balance_scale=2696 bald=1F9B2
bald_man=1F468.200D.1F9B2 bald_woman=1F469.200D.1F9B2 ballet_shoes=1FA70 balloon=1F388
ballot_box_with_ballot=1F5F3 ballot_box_with_check=2611 bamboo=1F38D banana=1F34C bangbang=203C
bangladesh=1F1E7.1F1E9 banjo=1FA95 bank=1F3E6 bar_chart=1F4CA barbados=1F1E7.1F1E7 barber=1F488
barber_pole=1F488 baseball=26BE basket=1F9FA basketball=1F3C0 bat=1F987 bath=1F6C0
bathtub=1F6C1 battery=1F50B beach_with_umbrella=1F3D6 beaming_face_with_smiling_eyes=1F601
bear=1F43B bear_face=1F43B bearded_person=1F9D4 bearded_person_dark_skin_tone=1F9D4.1F3FF
bearded_person_light_skin_tone=1F9D4.1F3FB bearded_person_medium-dark_skin_tone=1F9D4.1F3FE
bearded_person_medium-light_skin_tone=1F9D4.1F3FC bearded_person_medium_skin_tone=1F9D4.1F3FD
beating_heart=1F493 bed=1F6CF bee=1F41D beer=1F37A beer_mug=1F37A beers=1F37B beetle=1F41E
beginner=1F530 belarus=1F1E7.1F1FE belgium=1F1E7.1F1EA belize=1F1E7.1F1FF bell=1F514
bell_with_slash=1F515 bellhop_bell=1F6CE benin=1F1E7.1F1EF bento=1F371 bento_box=1F371
bermuda=1F1E7.1F1F2 beverage_box=1F9C3 bhutan=1F1E7.1F1F9 bicycle=1F6B2 bicyclist=1F6B4
bike=1F6B2 bikini=1F459 billed_cap=1F9E2 biohazard=2623 biohazard_sign=2623 bird=1F426
birthday=1F382 birthday_cake=1F382 black_circle=26AB black_circle_for_record=23FA
black_flag=1F3F4 black_heart=1F5A4 black_joker=1F0CF black_large_square=2B1B
black_left__pointing_double_triangle_with_vertical_bar=23EE black_medium-small_square=25FE
black_medium_small_square=25FE black_medium_square=25FC black_nib=2712
black_right__pointing_double_triangle_with_vertical_bar=23ED
black_right__pointing_triangle_with_double_vertical_bar=23EF black_small_square=25AA
black_square_button=1F532 black_square_for_stop=23F9 blond-haired_man=1F471.200D.2642.FE0F
blond-haired_man_dark_skin_tone=1F471.1F3FF.200D.2642.FE0F
blond-haired_man_light_skin_tone=1F471.1F3FB.200D.2642.FE0F
blond-haired_man_medium-dark_skin_tone=1F471.1F3FE.200D.2642.FE0F
blond-haired_man_medium-light_skin_tone=1F471.1F3FC.200D.2642.FE0F
blond-haired_man_medium_skin_tone=1F471.1F3FD.200D.2642.FE0F blond-haired_person=1F471
blond-haired_person_dark_skin_tone=1F471.1F3FF blond-haired_person_light_skin_tone=1F471.1F3FB
blond-haired_person_medium-dark_skin_tone=1F471.1F3FE
blond-haired_person_medium-light_skin_tone=1F471.1F3FC
blond-haired_person_medium_skin_tone=1F471.1F3FD blond-haired_woman=1F471.200D.2640.FE0F
blond-haired_woman_dark_skin_tone=1F471.1F3FF.200D.2640.FE0F
blond-haired_woman_light_skin_tone=1F471.1F3FB.200D.2640.FE0F
blond-haired_woman_medium-dark_skin_tone=1F471.1F3FE.200D.2640.FE0F
blond-haired_woman_medium-light_skin_tone=1F471.1F3FC.200D.2640.FE0F
blond-haired_woman_medium_skin_tone=1F471.1F3FD.200D.2640.FE0F blossom=1F33C blowfish=1F421
blue_book=1F4D8 blue_car=1F699 blue_circle=1F535 blue_heart=1F499 blue_square=1F7E6 blush=1F60A
boar=1F417 boat=26F5 bolivia=1F1E7.1F1F4 bomb=1F4A3 bone=1F9B4 book=1F4D6 bookmark=1F516
bookmark_tabs=1F4D1 books=1F4DA boom=1F4A5 boot=1F462 bosnia_&_herzegovina=1F1E7.1F1E6
botswana=1F1E7.1F1FC bottle_with_popping_cork=1F37E bouquet=1F490 bouvet_island=1F1E7.1F1FB
bow=1F647 bow_and_arrow=1F3F9 bowl_with_spoon=1F963 bowling=1F3B3 boxing_glove=1F94A boy=1F466
boy_dark_skin_tone=1F466.1F3FF boy_light_skin_tone=1F466.1F3FB
boy_medium-dark_skin_tone=1F466.1F3FE boy_medium-light_skin_tone=1F466.1F3FC
boy_medium_skin_tone=1F466.1F3FD brain=1F9E0 brazil=1F1E7.1F1F7 bread=1F35E
breast-feeding=1F931 breast-feeding_dark_skin_tone=1F931.1F3FF
breast-feeding_light_skin_tone=1F931.1F3FB breast-feeding_medium-dark_skin_tone=1F931.1F3FE
breast-feeding_medium-light_skin_tone=1F931.1F3FC breast-feeding_medium_skin_tone=1F931.1F3FD
brick=1F9F1 bride_with_veil=1F470 bride_with_veil_dark_skin_tone=1F470.1F3FF
bride_with_veil_light_skin_tone=1F470.1F3FB bride_with_veil_medium-dark_skin_tone=1F470.1F3FE
bride_with_veil_medium-light_skin_tone=1F470.1F3FC bride_with_veil_medium_skin_tone=1F470.1F3FD
bridge_at_night=1F309 briefcase=1F4BC briefs=1FA72 bright_button=1F506
british_indian_ocean_territory=1F1EE.1F1F4 british_virgin_islands=1F1FB.1F1EC broccoli=1F966
broken_heart=1F494 broom=1F9F9 brown_circle=1F7E4 brown_heart=1F90E brown_square=1F7EB
brunei=1F1E7.1F1F3 bug=1F41B building_construction=1F3D7 bulb=1F4A1 bulgaria=1F1E7.1F1EC
bullet_train=1F685 bullettrain_front=1F685 bullettrain_side=1F684 burkina_faso=1F1E7.1F1EB
burrito=1F32F burundi=1F1E7.1F1EE bus=1F68C bus_stop=1F68F busstop=1F68F
bust_in_silhouette=1F464 busts_in_silhouette=1F465 butter=1F9C8 butterfly=1F98B cactus=1F335
cake=1F370 calendar=1F4C6 call_me_hand=1F919 call_me_hand_dark_skin_tone=1F919.1F3FF
call_me_hand_light_skin_tone=1F919.1F3FB call_me_hand_medium-dark_skin_tone=1F919.1F3FE
call_me_hand_medium-light_skin_tone=1F919.1F3FC call_me_hand_medium_skin_tone=1F919.1F3FD
calling=1F4F2 cambodia=1F1F0.1F1ED camel=1F42B camera=1F4F7 camera_with_flash=1F4F8
cameroon=1F1E8.1F1F2 camping=1F3D5 canada=1F1E8.1F1E6 canary_islands=1F1EE.1F1E8 cancer=264B
candle=1F56F candy=1F36C canned_food=1F96B canoe=1F6F6 cape_verde=1F1E8.1F1FB
capital_abcd=1F520 capricorn=2651 car=1F697 card_file_box=1F5C3 card_index=1F4C7
card_index_dividers=1F5C2 caribbean_netherlands=1F1E7.1F1F6 carousel_horse=1F3A0
carp_streamer=1F38F carrot=1F955 castle=1F3F0 cat=1F431 cat2=1F408 cat_face=1F431
cat_face_with_tears_of_joy=1F639 cat_face_with_wry_smile=1F63C cayman_islands=1F1F0.1F1FE
cd=1F4BF central_african_republic=1F1E8.1F1EB ceuta_&_melilla=1F1EA.1F1E6 chad=1F1F9.1F1E9
chains=26D3 chair=1FA91 chart=1F4B9 chart_decreasing=1F4C9 chart_increasing=1F4C8
chart_increasing_with_yen=1F4B9 chart_with_downwards_trend=1F4C9 chart_with_upwards_trend=1F4C8
checkered_flag=1F3C1 cheese_wedge=1F9C0 chequered_flag=1F3C1 cherries=1F352
cherry_blossom=1F338 chess_pawn=265F chestnut=1F330 chicken=1F414 child=1F9D2
child_dark_skin_tone=1F9D2.1F3FF child_light_skin_tone=1F9D2.1F3FB
child_medium-dark_skin_tone=1F9D2.1F3FE child_medium-light_skin_tone=1F9D2.1F3FC
child_medium_skin_tone=1F9D2.1F3FD children_crossing=1F6B8 chile=1F1E8.1F1F1 china=1F1E8.1F1F3
chipmunk=1F43F chocolate_bar=1F36B chopsticks=1F962 christmas_island=1F1E8.1F1FD
christmas_tree=1F384 church=26EA cigarette=1F6AC cinema=1F3A6 circled_m=24C2 circus_tent=1F3AA
city_sunrise=1F307 city_sunset=1F306 cityscape=1F3D9 cityscape_at_dusk=1F306 cl=1F191
cl_button=1F191 clamp=1F5DC clap=1F44F clapper=1F3AC clapper_board=1F3AC clapping_hands=1F44F
clapping_hands_dark_skin_tone=1F44F.1F3FF clapping_hands_light_skin_tone=1F44F.1F3FB
clapping_hands_medium-dark_skin_tone=1F44F.1F3FE
clapping_hands_medium-light_skin_tone=1F44F.1F3FC clapping_hands_medium_skin_tone=1F44F.1F3FD
classical_building=1F3DB clinking_beer_mugs=1F37B clinking_glasses=1F942 clipboard=1F4CB
clipperton_island=1F1E8.1F1F5 clock1=1F550 clock10=1F559 clock1030=1F565 clock11=1F55A
clock1130=1F566 clock12=1F55B clock1230=1F567 clock130=1F55C clock2=1F551 clock230=1F55D
clock3=1F552 clock330=1F55E clock4=1F553 clock430=1F55F clock5=1F554 clock530=1F560
clock6=1F555 clock630=1F561 clock7=1F556 clock730=1F562 clock8=1F557 clock830=1F563
clock9=1F558 clock930=1F564 clockwise_vertical_arrows=1F503 closed_book=1F4D5
closed_lock_with_key=1F510 closed_mailbox_with_lowered_flag=1F4EA
closed_mailbox_with_raised_flag=1F4EB closed_umbrella=1F302 cloud=2601
cloud_with_lightning=1F329 cloud_with_lightning_and_rain=26C8 cloud_with_rain=1F327
cloud_with_snow=1F328 cloud_with_tornado=1F32A clown_face=1F921 club_suit=2663 clubs=2663
clutch_bag=1F45D coat=1F9E5 cocktail=1F378 cocktail_glass=1F378 coconut=1F965
cocos_(keeling)_islands=1F1E8.1F1E8 coffee=2615 coffin=26B0 cold_face=1F976 cold_sweat=1F630
collision=1F4A5 colombia=1F1E8.1F1F4 comet=2604 comoros=1F1F0.1F1F2 compass=1F9ED
compression=1F5DC computer=1F4BB computer_disk=1F4BD computer_mouse=1F5B1 confetti_ball=1F38A
confounded=1F616 confounded_face=1F616 confused=1F615 confused_face=1F615
congo_-_brazzaville=1F1E8.1F1EC congo_-_kinshasa=1F1E8.1F1E9 congratulations=3297
construction=1F6A7 construction_worker=1F477 construction_worker_dark_skin_tone=1F477.1F3FF
construction_worker_light_skin_tone=1F477.1F3FB
construction_worker_medium-dark_skin_tone=1F477.1F3FE
construction_worker_medium-light_skin_tone=1F477.1F3FC
construction_worker_medium_skin_tone=1F477.1F3FD control_knobs=1F39B convenience_store=1F3EA
cook_islands=1F1E8.1F1F0 cooked_rice=1F35A cookie=1F36A cooking=1F373 cool=1F192
cool_button=1F192 cop=1F46E copyright=A9 corn=1F33D costa_rica=1F1E8.1F1F7 couch_and_lamp=1F6CB
counterclockwise_arrows_button=1F504 couple=1F46B couple_with_heart=1F491
couple_with_heart_man_man=1F468.200D.2764.FE0F.200D.1F468
couple_with_heart_woman_man=1F469.200D.2764.FE0F.200D.1F468
couple_with_heart_woman_woman=1F469.200D.2764.FE0F.200D.1F469 couplekiss=1F48F cow=1F42E
cow2=1F404 cow_face=1F42E cowboy_hat_face=1F920 crab=1F980 crayon=1F58D credit_card=1F4B3
crescent_moon=1F319 cricket=1F997 cricket_bat_and_ball=1F3CF cricket_game=1F3CF
croatia=1F1ED.1F1F7 crocodile=1F40A croissant=1F950 cross_mark=274C cross_mark_button=274E
crossed_fingers=1F91E crossed_fingers_dark_skin_tone=1F91E.1F3FF
crossed_fingers_light_skin_tone=1F91E.1F3FB crossed_fingers_medium-dark_skin_tone=1F91E.1F3FE
crossed_fingers_medium-light_skin_tone=1F91E.1F3FC crossed_fingers_medium_skin_tone=1F91E.1F3FD
crossed_flags=1F38C crossed_swords=2694 crown=1F451 cry=1F622 crying_cat_face=1F63F
crying_face=1F622 crystal_ball=1F52E cuba=1F1E8.1F1FA cucumber=1F952 cup_with_straw=1F964
cupcake=1F9C1 cupid=1F498 curaçao=1F1E8.1F1FC curling_stone=1F94C
curly-haired_man=1F468.200D.1F9B1 curly-haired_woman=1F469.200D.1F9B1 curly_hair=1F9B1
curly_loop=27B0 currency_exchange=1F4B1 curry=1F35B curry_rice=1F35B custard=1F36E
customs=1F6C3 cut_of_meat=1F969 cyclone=1F300 cyprus=1F1E8.1F1FE czechia=1F1E8.1F1FF
côte_d’ivoire=1F1E8.1F1EE dagger=1F5E1 dagger_knife=1F5E1 dancer=1F483 dancers=1F46F
dango=1F361 dark_skin_tone=1F3FF dark_sunglasses=1F576 dart=1F3AF dash=1F4A8 dashing_away=1F4A8
date=1F4C5 deaf_person=1F9CF deciduous_tree=1F333 deer=1F98C delivery_truck=1F69A
denmark=1F1E9.1F1F0 department_store=1F3EC derelict_house=1F3DA derelict_house_building=1F3DA
desert=1F3DC desert_island=1F3DD desktop_computer=1F5A5 detective=1F575
detective_dark_skin_tone=1F575.1F3FF detective_light_skin_tone=1F575.1F3FB
detective_medium-dark_skin_tone=1F575.1F3FE detective_medium-light_skin_tone=1F575.1F3FC
detective_medium_skin_tone=1F575.1F3FD diamond_shape_with_a_dot_inside=1F4A0 diamond_suit=2666
diamond_with_a_dot=1F4A0 diamonds=2666 diego_garcia=1F1E9.1F1EC dim_button=1F505
direct_hit=1F3AF disappointed=1F61E disappointed_face=1F61E disappointed_relieved=1F625
diving_mask=1F93F diya_lamp=1FA94 dizzy=1F4AB dizzy_face=1F635 djibouti=1F1E9.1F1EF dna=1F9EC
do_not_litter=1F6AF dog=1F436 dog2=1F415 dog_face=1F436 dollar=1F4B5 dollar_banknote=1F4B5
dolls=1F38E dolphin=1F42C dominica=1F1E9.1F1F2 dominican_republic=1F1E9.1F1F4 door=1F6AA
dotted_six-pointed_star=1F52F double_curly_loop=27BF double_exclamation_mark=203C
double_vertical_bar=23F8 doughnut=1F369 dove=1F54A dove_of_peace=1F54A down-left_arrow=2199
down-right_arrow=2198 down_arrow=2B07 downcast_face_with_sweat=1F613 downwards_button=1F53D
dragon=1F409 dragon_face=1F432 dress=1F457 dromedary_camel=1F42A drooling_face=1F924
drop_of_blood=1FA78 droplet=1F4A7 drum=1F941 duck=1F986 dumpling=1F95F dvd=1F4C0 e-mail=1F4E7
e__mail=1F4E7 eagle=1F985 ear=1F442 ear_dark_skin_tone=1F442.1F3FF
ear_light_skin_tone=1F442.1F3FB ear_medium-dark_skin_tone=1F442.1F3FE
ear_medium-light_skin_tone=1F442.1F3FC ear_medium_skin_tone=1F442.1F3FD ear_of_corn=1F33D
ear_of_rice=1F33E ear_with_hearing_aid=1F9BB earth_africa=1F30D earth_americas=1F30E
earth_asia=1F30F ecuador=1F1EA.1F1E8 egg=1F373 eggplant=1F346 egypt=1F1EA.1F1EC
eight=38.FE0F.20E3 eight-pointed_star=2734 eight-spoked_asterisk=2733 eight-thirty=1F563
eight_o’clock=1F557 eight_pointed_black_star=2734 eight_spoked_asterisk=2733 eject_button=23CF
eject_symbol=23CF el_salvador=1F1F8.1F1FB electric_plug=1F50C elephant=1F418
eleven-thirty=1F566 eleven_o’clock=1F55A elf=1F9DD elf_dark_skin_tone=1F9DD.1F3FF
elf_light_skin_tone=1F9DD.1F3FB elf_medium-dark_skin_tone=1F9DD.1F3FE
elf_medium-light_skin_tone=1F9DD.1F3FC elf_medium_skin_tone=1F9DD.1F3FD email=2709
emoji_modifier_fitzpatrick_type__1__2=1F3FB emoji_modifier_fitzpatrick_type__3=1F3FC
emoji_modifier_fitzpatrick_type__4=1F3FD emoji_modifier_fitzpatrick_type__5=1F3FE
emoji_modifier_fitzpatrick_type__6=1F3FF end=1F51A end_arrow=1F51A
england=1F3F4.E0067.E0062.E0065.E006E.E0067.E007F envelope=2709 envelope_with_arrow=1F4E9
equatorial_guinea=1F1EC.1F1F6 eritrea=1F1EA.1F1F7 estonia=1F1EA.1F1EA ethiopia=1F1EA.1F1F9
euro=1F4B6 euro_banknote=1F4B6 european_castle=1F3F0 european_post_office=1F3E4
european_union=1F1EA.1F1FA evergreen_tree=1F332 ewe=1F411 exclamation=2757
exclamation_mark=2757 exclamation_question_mark=2049 exploding_head=1F92F expressionless=1F611
expressionless_face=1F611 eye=1F441 eye_in_speech_bubble=1F441.FE0F.200D.1F5E8.FE0F
eyeglasses=1F453 eyes=1F440 face_blowing_a_kiss=1F618 face_savoring_food=1F60B
face_screaming_in_fear=1F631 face_vomiting=1F92E face_with_hand_over_mouth=1F92D
face_with_head-bandage=1F915 face_with_head__bandage=1F915 face_with_medical_mask=1F637
face_with_monocle=1F9D0 face_with_open_mouth=1F62E face_with_raised_eyebrow=1F928
face_with_rolling_eyes=1F644 face_with_steam_from_nose=1F624 face_with_symbols_on_mouth=1F92C
face_with_tears_of_joy=1F602 face_with_thermometer=1F912 face_with_tongue=1F61B
face_without_mouth=1F636 facepunch=1F44A factory=1F3ED fairy=1F9DA
fairy_dark_skin_tone=1F9DA.1F3FF fairy_light_skin_tone=1F9DA.1F3FB
fairy_medium-dark_skin_tone=1F9DA.1F3FE fairy_medium-light_skin_tone=1F9DA.1F3FC
fairy_medium_skin_tone=1F9DA.1F3FD falafel=1F9C6 falkland_islands=1F1EB.1F1F0 fallen_leaf=1F342
family=1F46A family_man_boy=1F468.200D.1F466 family_man_boy_boy=1F468.200D.1F466.200D.1F466
family_man_girl=1F468.200D.1F467 family_man_girl_boy=1F468.200D.1F467.200D.1F466
family_man_girl_girl=1F468.200D.1F467.200D.1F467 family_man_man_boy=1F468.200D.1F468.200D.1F466
family_man_man_boy_boy=1F468.200D.1F468.200D.1F466.200D.1F466
family_man_man_girl=1F468.200D.1F468.200D.1F467
family_man_man_girl_boy=1F468.200D.1F468.200D.1F467.200D.1F466
family_man_man_girl_girl=1F468.200D.1F468.200D.1F467.200D.1F467
family_man_woman_boy=1F468.200D.1F469.200D.1F466
family_man_woman_boy_boy=1F468.200D.1F469.200D.1F466.200D.1F466
family_man_woman_girl=1F468.200D.1F469.200D.1F467
family_man_woman_girl_boy=1F468.200D.1F469.200D.1F467.200D.1F466
family_man_woman_girl_girl=1F468.200D.1F469.200D.1F467.200D.1F467
family_woman_boy=1F469.200D.1F466 family_woman_boy_boy=1F469.200D.1F466.200D.1F466
family_woman_girl=1F469.200D.1F467 family_woman_girl_boy=1F469.200D.1F467.200D.1F466
family_woman_girl_girl=1F469.200D.1F467.200D.1F467
family_woman_woman_boy=1F469.200D.1F469.200D.1F466
family_woman_woman_boy_boy=1F469.200D.1F469.200D.1F466.200D.1F466
family_woman_woman_girl=1F469.200D.1F469.200D.1F467
family_woman_woman_girl_boy=1F469.200D.1F469.200D.1F467.200D.1F466
family_woman_woman_girl_girl=1F469.200D.1F469.200D.1F467.200D.1F467 faroe_islands=1F1EB.1F1F4
fast-forward_button=23E9 fast_down_button=23EC fast_forward=23E9 fast_reverse_button=23EA
fast_up_button=23EB fax=1F4E0 fax_machine=1F4E0 fearful=1F628 fearful_face=1F628 feet=1F43E
female_sign=2640 ferris_wheel=1F3A1 ferry=26F4 field_hockey=1F3D1
field_hockey_stick_and_ball=1F3D1 fiji=1F1EB.1F1EF file_cabinet=1F5C4 file_folder=1F4C1
film_frames=1F39E film_projector=1F4FD finland=1F1EB.1F1EE fire=1F525 fire_engine=1F692
fire_extinguisher=1F9EF firecracker=1F9E8 fireworks=1F386 first_quarter_moon=1F313
first_quarter_moon_face=1F31B first_quarter_moon_with_face=1F31B fish=1F41F fish_cake=1F365
fish_cake_with_swirl=1F365 fishing_pole=1F3A3 fishing_pole_and_fish=1F3A3 fist=270A
five=35.FE0F.20E3 five-thirty=1F560 five_o’clock=1F554 flag_for_afghanistan=1F1E6.1F1EB
flag_for_albania=1F1E6.1F1F1 flag_for_algeria=1F1E9.1F1FF flag_for_american_samoa=1F1E6.1F1F8
flag_for_andorra=1F1E6.1F1E9 flag_for_angola=1F1E6.1F1F4 flag_for_anguilla=1F1E6.1F1EE
flag_for_antarctica=1F1E6.1F1F6 flag_for_antigua_&_barbuda=1F1E6.1F1EC
flag_for_argentina=1F1E6.1F1F7 flag_for_armenia=1F1E6.1F1F2 flag_for_aruba=1F1E6.1F1FC
flag_for_ascension_island=1F1E6.1F1E8 flag_for_australia=1F1E6.1F1FA
flag_for_austria=1F1E6.1F1F9 flag_for_azerbaijan=1F1E6.1F1FF flag_for_bahamas=1F1E7.1F1F8
flag_for_bahrain=1F1E7.1F1ED flag_for_bangladesh=1F1E7.1F1E9 flag_for_barbados=1F1E7.1F1E7
flag_for_belarus=1F1E7.1F1FE flag_for_belgium=1F1E7.1F1EA flag_for_belize=1F1E7.1F1FF
flag_for_benin=1F1E7.1F1EF flag_for_bermuda=1F1E7.1F1F2 flag_for_bhutan=1F1E7.1F1F9
flag_for_bolivia=1F1E7.1F1F4 flag_for_bosnia_&_herzegovina=1F1E7.1F1E6
flag_for_botswana=1F1E7.1F1FC flag_for_bouvet_island=1F1E7.1F1FB flag_for_brazil=1F1E7.1F1F7
flag_for_british_indian_ocean_territory=1F1EE.1F1F4 flag_for_british_virgin_islands=1F1FB.1F1EC
flag_for_brunei=1F1E7.1F1F3 flag_for_bulgaria=1F1E7.1F1EC flag_for_burkina_faso=1F1E7.1F1EB
flag_for_burundi=1F1E7.1F1EE flag_for_cambodia=1F1F0.1F1ED flag_for_cameroon=1F1E8.1F1F2
flag_for_canada=1F1E8.1F1E6 flag_for_canary_islands=1F1EE.1F1E8 flag_for_cape_verde=1F1E8.1F1FB
flag_for_caribbean_netherlands=1F1E7.1F1F6 flag_for_cayman_islands=1F1F0.1F1FE
flag_for_central_african_republic=1F1E8.1F1EB flag_for_ceuta_&_melilla=1F1EA.1F1E6
flag_for_chad=1F1F9.1F1E9 flag_for_chile=1F1E8.1F1F1 flag_for_china=1F1E8.1F1F3
flag_for_christmas_island=1F1E8.1F1FD flag_for_clipperton_island=1F1E8.1F1F5
flag_for_cocos__islands=1F1E8.1F1E8 flag_for_colombia=1F1E8.1F1F4 flag_for_comoros=1F1F0.1F1F2
flag_for_congo____brazzaville=1F1E8.1F1EC flag_for_congo____kinshasa=1F1E8.1F1E9
flag_for_cook_islands=1F1E8.1F1F0 flag_for_costa_rica=1F1E8.1F1F7 flag_for_croatia=1F1ED.1F1F7
flag_for_cuba=1F1E8.1F1FA flag_for_curaçao=1F1E8.1F1FC flag_for_cyprus=1F1E8.1F1FE
flag_for_czech_republic=1F1E8.1F1FF flag_for_côte_d’ivoire=1F1E8.1F1EE
flag_for_denmark=1F1E9.1F1F0 flag_for_diego_garcia=1F1E9.1F1EC flag_for_djibouti=1F1E9.1F1EF
flag_for_dominica=1F1E9.1F1F2 flag_for_dominican_republic=1F1E9.1F1F4
flag_for_ecuador=1F1EA.1F1E8 flag_for_egypt=1F1EA.1F1EC flag_for_el_salvador=1F1F8.1F1FB
flag_for_equatorial_guinea=1F1EC.1F1F6 flag_for_eritrea=1F1EA.1F1F7
flag_for_estonia=1F1EA.1F1EA flag_for_ethiopia=1F1EA.1F1F9 flag_for_european_union=1F1EA.1F1FA
flag_for_falkland_islands=1F1EB.1F1F0 flag_for_faroe_islands=1F1EB.1F1F4
flag_for_fiji=1F1EB.1F1EF flag_for_finland=1F1EB.1F1EE flag_for_france=1F1EB.1F1F7
flag_for_french_guiana=1F1EC.1F1EB flag_for_french_polynesia=1F1F5.1F1EB
flag_for_french_southern_territories=1F1F9.1F1EB flag_for_gabon=1F1EC.1F1E6
flag_for_gambia=1F1EC.1F1F2 flag_for_georgia=1F1EC.1F1EA flag_for_germany=1F1E9.1F1EA
flag_for_ghana=1F1EC.1F1ED flag_for_gibraltar=1F1EC.1F1EE flag_for_greece=1F1EC.1F1F7
flag_for_greenland=1F1EC.1F1F1 flag_for_grenada=1F1EC.1F1E9 flag_for_guadeloupe=1F1EC.1F1F5
flag_for_guam=1F1EC.1F1FA flag_for_guatemala=1F1EC.1F1F9 flag_for_guernsey=1F1EC.1F1EC
flag_for_guinea=1F1EC.1F1F3 flag_for_guinea__bissau=1F1EC.1F1FC flag_for_guyana=1F1EC.1F1FE
flag_for_haiti=1F1ED.1F1F9 flag_for_heard_&_mcdonald_islands=1F1ED.1F1F2
flag_for_honduras=1F1ED.1F1F3 flag_for_hong_kong=1F1ED.1F1F0 flag_for_hungary=1F1ED.1F1FA
flag_for_iceland=1F1EE.1F1F8 flag_for_india=1F1EE.1F1F3 flag_for_indonesia=1F1EE.1F1E9
flag_for_iran=1F1EE.1F1F7 flag_for_iraq=1F1EE.1F1F6 flag_for_ireland=1F1EE.1F1EA
flag_for_isle_of_man=1F1EE.1F1F2 flag_for_israel=1F1EE.1F1F1 flag_for_italy=1F1EE.1F1F9
flag_for_jamaica=1F1EF.1F1F2 flag_for_japan=1F1EF.1F1F5 flag_for_jersey=1F1EF.1F1EA
flag_for_jordan=1F1EF.1F1F4 flag_for_kazakhstan=1F1F0.1F1FF flag_for_kenya=1F1F0.1F1EA
flag_for_kiribati=1F1F0.1F1EE flag_for_kosovo=1F1FD.1F1F0 flag_for_kuwait=1F1F0.1F1FC
flag_for_kyrgyzstan=1F1F0.1F1EC flag_for_laos=1F1F1.1F1E6 flag_for_latvia=1F1F1.1F1FB
flag_for_lebanon=1F1F1.1F1E7 flag_for_lesotho=1F1F1.1F1F8 flag_for_liberia=1F1F1.1F1F7
flag_for_libya=1F1F1.1F1FE flag_for_liechtenstein=1F1F1.1F1EE flag_for_lithuania=1F1F1.1F1F9
flag_for_luxembourg=1F1F1.1F1FA flag_for_macau=1F1F2.1F1F4 flag_for_macedonia=1F1F2.1F1F0
flag_for_madagascar=1F1F2.1F1EC flag_for_malawi=1F1F2.1F1FC flag_for_malaysia=1F1F2.1F1FE
flag_for_maldives=1F1F2.1F1FB flag_for_mali=1F1F2.1F1F1 flag_for_malta=1F1F2.1F1F9
flag_for_marshall_islands=1F1F2.1F1ED flag_for_martinique=1F1F2.1F1F6
flag_for_mauritania=1F1F2.1F1F7 flag_for_mauritius=1F1F2.1F1FA flag_for_mayotte=1F1FE.1F1F9
flag_for_mexico=1F1F2.1F1FD flag_for_micronesia=1F1EB.1F1F2 flag_for_moldova=1F1F2.1F1E9
flag_for_monaco=1F1F2.1F1E8 flag_for_mongolia=1F1F2.1F1F3 flag_for_montenegro=1F1F2.1F1EA
flag_for_montserrat=1F1F2.1F1F8 flag_for_morocco=1F1F2.1F1E6 flag_for_mozambique=1F1F2.1F1FF
flag_for_myanmar=1F1F2.1F1F2 flag_for_namibia=1F1F3.1F1E6 flag_for_nauru=1F1F3.1F1F7
flag_for_nepal=1F1F3.1F1F5 flag_for_netherlands=1F1F3.1F1F1 flag_for_new_caledonia=1F1F3.1F1E8
flag_for_new_zealand=1F1F3.1F1FF flag_for_nicaragua=1F1F3.1F1EE flag_for_niger=1F1F3.1F1EA
flag_for_nigeria=1F1F3.1F1EC flag_for_niue=1F1F3.1F1FA flag_for_norfolk_island=1F1F3.1F1EB
flag_for_north_korea=1F1F0.1F1F5 flag_for_northern_mariana_islands=1F1F2.1F1F5
flag_for_norway=1F1F3.1F1F4 flag_for_oman=1F1F4.1F1F2 flag_for_pakistan=1F1F5.1F1F0
flag_for_palau=1F1F5.1F1FC flag_for_palestinian_territories=1F1F5.1F1F8
flag_for_panama=1F1F5.1F1E6 flag_for_papua_new_guinea=1F1F5.1F1EC flag_for_paraguay=1F1F5.1F1FE
flag_for_peru=1F1F5.1F1EA flag_for_philippines=1F1F5.1F1ED
flag_for_pitcairn_islands=1F1F5.1F1F3 flag_for_poland=1F1F5.1F1F1 flag_for_portugal=1F1F5.1F1F9
flag_for_puerto_rico=1F1F5.1F1F7 flag_for_qatar=1F1F6.1F1E6 flag_for_romania=1F1F7.1F1F4
flag_for_russia=1F1F7.1F1FA flag_for_rwanda=1F1F7.1F1FC flag_for_réunion=1F1F7.1F1EA
flag_for_samoa=1F1FC.1F1F8 flag_for_san_marino=1F1F8.1F1F2 flag_for_saudi_arabia=1F1F8.1F1E6
flag_for_senegal=1F1F8.1F1F3 flag_for_serbia=1F1F7.1F1F8 flag_for_seychelles=1F1F8.1F1E8
flag_for_sierra_leone=1F1F8.1F1F1 flag_for_singapore=1F1F8.1F1EC
flag_for_sint_maarten=1F1F8.1F1FD flag_for_slovakia=1F1F8.1F1F0 flag_for_slovenia=1F1F8.1F1EE
flag_for_solomon_islands=1F1F8.1F1E7 flag_for_somalia=1F1F8.1F1F4
flag_for_south_africa=1F1FF.1F1E6 flag_for_south_georgia_&_south_sandwich_islands=1F1EC.1F1F8
flag_for_south_korea=1F1F0.1F1F7 flag_for_south_sudan=1F1F8.1F1F8 flag_for_spain=1F1EA.1F1F8
flag_for_sri_lanka=1F1F1.1F1F0 flag_for_st._barthélemy=1F1E7.1F1F1
flag_for_st._helena=1F1F8.1F1ED flag_for_st._kitts_&_nevis=1F1F0.1F1F3
flag_for_st._lucia=1F1F1.1F1E8 flag_for_st._martin=1F1F2.1F1EB
flag_for_st._pierre_&_miquelon=1F1F5.1F1F2 flag_for_st._vincent_&_grenadines=1F1FB.1F1E8
flag_for_sudan=1F1F8.1F1E9 flag_for_suriname=1F1F8.1F1F7
flag_for_svalbard_&_jan_mayen=1F1F8.1F1EF flag_for_swaziland=1F1F8.1F1FF
flag_for_sweden=1F1F8.1F1EA flag_for_switzerland=1F1E8.1F1ED flag_for_syria=1F1F8.1F1FE
flag_for_são_tomé_&_príncipe=1F1F8.1F1F9 flag_for_taiwan=1F1F9.1F1FC
flag_for_tajikistan=1F1F9.1F1EF flag_for_tanzania=1F1F9.1F1FF flag_for_thailand=1F1F9.1F1ED
flag_for_timor__leste=1F1F9.1F1F1 flag_for_togo=1F1F9.1F1EC flag_for_tokelau=1F1F9.1F1F0
flag_for_tonga=1F1F9.1F1F4 flag_for_trinidad_&_tobago=1F1F9.1F1F9
flag_for_tristan_da_cunha=1F1F9.1F1E6 flag_for_tunisia=1F1F9.1F1F3 flag_for_turkey=1F1F9.1F1F7
flag_for_turkmenistan=1F1F9.1F1F2 flag_for_turks_&_caicos_islands=1F1F9.1F1E8
flag_for_tuvalu=1F1F9.1F1FB flag_for_u.s._outlying_islands=1F1FA.1F1F2
flag_for_u.s._virgin_islands=1F1FB.1F1EE flag_for_uganda=1F1FA.1F1EC
flag_for_ukraine=1F1FA.1F1E6 flag_for_united_arab_emirates=1F1E6.1F1EA
flag_for_united_kingdom=1F1EC.1F1E7 flag_for_united_states=1F1FA.1F1F8
flag_for_uruguay=1F1FA.1F1FE flag_for_uzbekistan=1F1FA.1F1FF flag_for_vanuatu=1F1FB.1F1FA
flag_for_vatican_city=1F1FB.1F1E6 flag_for_venezuela=1F1FB.1F1EA flag_for_vietnam=1F1FB.1F1F3
flag_for_wallis_&_futuna=1F1FC.1F1EB flag_for_western_sahara=1F1EA.1F1ED
flag_for_yemen=1F1FE.1F1EA flag_for_zambia=1F1FF.1F1F2 flag_for_zimbabwe=1F1FF.1F1FC
flag_for_åland_islands=1F1E6.1F1FD flag_in_hole=26F3 flags=1F38F flamingo=1F9A9
flashlight=1F526 flat_shoe=1F97F fleur-de-lis=269C fleur__de__lis=269C flexed_biceps=1F4AA
flexed_biceps_dark_skin_tone=1F4AA.1F3FF flexed_biceps_light_skin_tone=1F4AA.1F3FB
flexed_biceps_medium-dark_skin_tone=1F4AA.1F3FE
flexed_biceps_medium-light_skin_tone=1F4AA.1F3FC flexed_biceps_medium_skin_tone=1F4AA.1F3FD
flipper=1F42C floppy_disk=1F4BE flower_playing_cards=1F3B4 flushed=1F633 flushed_face=1F633
flying_disc=1F94F flying_saucer=1F6F8 fog=1F32B foggy=1F301 folded_hands=1F64F
folded_hands_dark_skin_tone=1F64F.1F3FF folded_hands_light_skin_tone=1F64F.1F3FB
folded_hands_medium-dark_skin_tone=1F64F.1F3FE folded_hands_medium-light_skin_tone=1F64F.1F3FC
folded_hands_medium_skin_tone=1F64F.1F3FD foot=1F9B6 football=1F3C8 footprints=1F463
fork_and_knife=1F374 fork_and_knife_with_plate=1F37D fortune_cookie=1F960 fountain=26F2
fountain_pen=1F58B four=34.FE0F.20E3 four-thirty=1F55F four_leaf_clover=1F340
four_o’clock=1F553 fox_face=1F98A frame_with_picture=1F5BC framed_picture=1F5BC
france=1F1EB.1F1F7 free=1F193 free_button=1F193 french_fries=1F35F french_guiana=1F1EC.1F1EB
french_polynesia=1F1F5.1F1EB french_southern_territories=1F1F9.1F1EB fried_shrimp=1F364
fries=1F35F frog=1F438 frog_face=1F438 front-facing_baby_chick=1F425 frowning=1F626
frowning_face=2639 frowning_face_with_open_mouth=1F626 fuel_pump=26FD fuelpump=26FD
full_moon=1F315 full_moon_face=1F31D full_moon_with_face=1F31D funeral_urn=26B1
gabon=1F1EC.1F1E6 gambia=1F1EC.1F1F2 game_die=1F3B2 garlic=1F9C4 gear=2699 gem=1F48E
gem_stone=1F48E gemini=264A genie=1F9DE georgia=1F1EC.1F1EA germany=1F1E9.1F1EA
ghana=1F1EC.1F1ED ghost=1F47B gibraltar=1F1EC.1F1EE gift=1F381 gift_heart=1F49D giraffe=1F992
girl=1F467 girl_dark_skin_tone=1F467.1F3FF girl_light_skin_tone=1F467.1F3FB
girl_medium-dark_skin_tone=1F467.1F3FE girl_medium-light_skin_tone=1F467.1F3FC
girl_medium_skin_tone=1F467.1F3FD glass_of_milk=1F95B glasses=1F453
globe_showing_americas=1F30E globe_showing_asia-australia=1F30F
globe_showing_europe-africa=1F30D globe_with_meridians=1F310 gloves=1F9E4 glowing_star=1F31F
goal_net=1F945 goat=1F410 goblin=1F47A goggles=1F97D golf=26F3 golfer=1F3CC gorilla=1F98D
graduation_cap=1F393 grapes=1F347 greece=1F1EC.1F1F7 green_apple=1F34F green_book=1F4D7
green_circle=1F7E2 green_heart=1F49A green_salad=1F957 green_square=1F7E9 greenland=1F1EC.1F1F1
grenada=1F1EC.1F1E9 grey_exclamation=2755 grey_question=2754 grimacing=1F62C
grimacing_face=1F62C grin=1F601 grinning=1F600 grinning_cat_face=1F63A
grinning_cat_face_with_smiling_eyes=1F638 grinning_face=1F600 grinning_face_with_big_eyes=1F603
grinning_face_with_smiling_eyes=1F604 grinning_face_with_sweat=1F605
grinning_squinting_face=1F606 growing_heart=1F497 guadeloupe=1F1EC.1F1F5 guam=1F1EC.1F1FA
guard=1F482 guard_dark_skin_tone=1F482.1F3FF guard_light_skin_tone=1F482.1F3FB
guard_medium-dark_skin_tone=1F482.1F3FE guard_medium-light_skin_tone=1F482.1F3FC
guard_medium_skin_tone=1F482.1F3FD guardsman=1F482 guatemala=1F1EC.1F1F9 guernsey=1F1EC.1F1EC
guide_dog=1F9AE guinea=1F1EC.1F1F3 guinea-bissau=1F1EC.1F1FC guitar=1F3B8 gun=1F52B
guyana=1F1EC.1F1FE haircut=1F487 haiti=1F1ED.1F1F9 hamburger=1F354 hammer=1F528
hammer_and_pick=2692 hammer_and_wrench=1F6E0 hamster=1F439 hamster_face=1F439 hand=270B
hand_with_fingers_splayed=1F590 hand_with_fingers_splayed_dark_skin_tone=1F590.1F3FF
hand_with_fingers_splayed_light_skin_tone=1F590.1F3FB
hand_with_fingers_splayed_medium-dark_skin_tone=1F590.1F3FE
hand_with_fingers_splayed_medium-light_skin_tone=1F590.1F3FC
hand_with_fingers_splayed_medium_skin_tone=1F590.1F3FD handbag=1F45C handshake=1F91D
hankey=1F4A9 hatched_chick=1F425 hatching_chick=1F423 headphone=1F3A7 headphones=1F3A7
hear-no-evil_monkey=1F649 hear_no_evil=1F649 heard_&_mcdonald_islands=1F1ED.1F1F2 heart=2764
heart_decoration=1F49F heart_eyes=1F60D heart_eyes_cat=1F63B heart_suit=2665
heart_with_arrow=1F498 heart_with_ribbon=1F49D heartbeat=1F493 heartpulse=1F497 hearts=2665
heavy_check_mark=2714 heavy_division_sign=2797 heavy_dollar_sign=1F4B2
heavy_exclamation_mark=2757 heavy_heart_exclamation=2763
heavy_heart_exclamation_mark_ornament=2763 heavy_large_circle=2B55 heavy_minus_sign=2796
heavy_multiplication_x=2716 heavy_plus_sign=2795 hedgehog=1F994 helicopter=1F681
helm_symbol=2388 helmet_with_white_cross=26D1 herb=1F33F hibiscus=1F33A high-heeled_shoe=1F460
high-speed_train=1F684 high_brightness=1F506 high_heel=1F460 high_voltage=26A1
hiking_boot=1F97E hindu_temple=1F6D5 hippopotamus=1F99B hocho=1F52A hole=1F573
honduras=1F1ED.1F1F3 honey_pot=1F36F honeybee=1F41D hong_kong_sar_china=1F1ED.1F1F0
horizontal_traffic_light=1F6A5 horse=1F434 horse_face=1F434 horse_racing=1F3C7
horse_racing_dark_skin_tone=1F3C7.1F3FF horse_racing_light_skin_tone=1F3C7.1F3FB
horse_racing_medium-dark_skin_tone=1F3C7.1F3FE horse_racing_medium-light_skin_tone=1F3C7.1F3FC
horse_racing_medium_skin_tone=1F3C7.1F3FD hospital=1F3E5 hot_beverage=2615 hot_dog=1F32D
hot_face=1F975 hot_pepper=1F336 hot_springs=2668 hotel=1F3E8 hotsprings=2668 hourglass=231B
hourglass_done=231B hourglass_flowing_sand=23F3 hourglass_not_done=23F3 house=1F3E0
house_buildings=1F3D8 house_with_garden=1F3E1 houses=1F3D8 hugging_face=1F917
hundred_points=1F4AF hungary=1F1ED.1F1FA hushed=1F62F hushed_face=1F62F ice=1F9CA
ice_cream=1F368 ice_hockey=1F3D2 ice_hockey_stick_and_puck=1F3D2 ice_skate=26F8 icecream=1F366
iceland=1F1EE.1F1F8 id=1F194 id_button=1F194 ideograph_advantage=1F250 imp=1F47F
inbox_tray=1F4E5 incoming_envelope=1F4E8 index_pointing_up=261D
index_pointing_up_dark_skin_tone=261D.1F3FF index_pointing_up_light_skin_tone=261D.1F3FB
index_pointing_up_medium-dark_skin_tone=261D.1F3FE
index_pointing_up_medium-light_skin_tone=261D.1F3FC
index_pointing_up_medium_skin_tone=261D.1F3FD india=1F1EE.1F1F3 indonesia=1F1EE.1F1E9
infinity=267E information=2139 information_desk_person=1F481 information_source=2139
innocent=1F607 input_latin_letters=1F524 input_latin_lowercase=1F521
input_latin_uppercase=1F520 input_numbers=1F522 input_symbols=1F523 interrobang=2049
iphone=1F4F1 iran=1F1EE.1F1F7 iraq=1F1EE.1F1F6 ireland=1F1EE.1F1EA isle_of_man=1F1EE.1F1F2
israel=1F1EE.1F1F1 italy=1F1EE.1F1F9 izakaya_lantern=1F3EE jack-o-lantern=1F383
jack_o_lantern=1F383 jamaica=1F1EF.1F1F2 japan=1F5FE japanese_acceptable_button=1F251
japanese_application_button=1F238 japanese_bargain_button=1F250 japanese_castle=1F3EF
japanese_congratulations_button=3297 japanese_discount_button=1F239 japanese_dolls=1F38E
japanese_free_of_charge_button=1F21A japanese_goblin=1F47A japanese_here_button=1F201
japanese_monthly_amount_button=1F237 japanese_no_vacancy_button=1F235
japanese_not_free_of_charge_button=1F236 japanese_ogre=1F479
japanese_open_for_business_button=1F23A japanese_passing_grade_button=1F234
japanese_post_office=1F3E3 japanese_prohibited_button=1F232 japanese_reserved_button=1F22F
japanese_secret_button=3299 japanese_service_charge_button=1F202
japanese_symbol_for_beginner=1F530 japanese_vacancy_button=1F233 jeans=1F456 jersey=1F1EF.1F1EA
jigsaw=1F9E9 joker=1F0CF jordan=1F1EF.1F1F4 joy=1F602 joy_cat=1F639 joystick=1F579 kaaba=1F54B
kangaroo=1F998 kazakhstan=1F1F0.1F1FF kenya=1F1F0.1F1EA key=1F511 keyboard=2328
keycap_#=23.FE0F.20E3 keycap_*=2A.FE0F.20E3 keycap_0=30.FE0F.20E3 keycap_1=31.FE0F.20E3
keycap_10=1F51F keycap_2=32.FE0F.20E3 keycap_3=33.FE0F.20E3 keycap_4=34.FE0F.20E3
keycap_5=35.FE0F.20E3 keycap_6=36.FE0F.20E3 keycap_7=37.FE0F.20E3 keycap_8=38.FE0F.20E3
keycap_9=39.FE0F.20E3 keycap_asterisk=2A.20E3 keycap_digit_eight=38.20E3
keycap_digit_five=35.20E3 keycap_digit_four=34.20E3 keycap_digit_nine=39.20E3
keycap_digit_one=31.20E3 keycap_digit_seven=37.20E3 keycap_digit_six=36.20E3
keycap_digit_three=33.20E3 keycap_digit_two=32.20E3 keycap_digit_zero=30.20E3
keycap_number_sign=23.20E3 kick_scooter=1F6F4 kimono=1F458 kiribati=1F1F0.1F1EE kiss=1F48B
kiss_man_man=1F468.200D.2764.FE0F.200D.1F48B.200D.1F468 kiss_mark=1F48B
kiss_woman_man=1F469.200D.2764.FE0F.200D.1F48B.200D.1F468
kiss_woman_woman=1F469.200D.2764.FE0F.200D.1F48B.200D.1F469 kissing=1F617 kissing_cat=1F63D
kissing_cat_face=1F63D kissing_closed_eyes=1F61A kissing_face=1F617
kissing_face_with_closed_eyes=1F61A kissing_face_with_smiling_eyes=1F619 kissing_heart=1F618
kissing_smiling_eyes=1F619 kitchen_knife=1F52A kite=1FA81 kiwi_fruit=1F95D knife=1F52A
koala=1F428 koko=1F201 kosovo=1F1FD.1F1F0 kuwait=1F1F0.1F1FC kyrgyzstan=1F1F0.1F1EC
lab_coat=1F97C label=1F3F7 lacrosse=1F94D lady_beetle=1F41E lantern=1F3EE laos=1F1F1.1F1E6
laptop_computer=1F4BB large_blue_circle=1F535 large_blue_diamond=1F537
large_orange_diamond=1F536 last_quarter_moon=1F317 last_quarter_moon_face=1F31C
last_quarter_moon_with_face=1F31C last_track_button=23EE latin_cross=271D latvia=1F1F1.1F1FB
laughing=1F606 leaf_fluttering_in_wind=1F343 leafy_green=1F96C leaves=1F343 lebanon=1F1F1.1F1E7
ledger=1F4D2 left-facing_fist=1F91B left-facing_fist_dark_skin_tone=1F91B.1F3FF
left-facing_fist_light_skin_tone=1F91B.1F3FB left-facing_fist_medium-dark_skin_tone=1F91B.1F3FE
left-facing_fist_medium-light_skin_tone=1F91B.1F3FC
left-facing_fist_medium_skin_tone=1F91B.1F3FD left-right_arrow=2194 left_arrow=2B05
left_arrow_curving_right=21AA left_luggage=1F6C5 left_right_arrow=2194 left_speech_bubble=1F5E8
leftwards_arrow_with_hook=21A9 leg=1F9B5 lemon=1F34B leo=264C leopard=1F406 lesotho=1F1F1.1F1F8
level_slider=1F39A liberia=1F1F1.1F1F7 libra=264E libya=1F1F1.1F1FE liechtenstein=1F1F1.1F1EE
light_bulb=1F4A1 light_rail=1F688 light_skin_tone=1F3FB link=1F517 linked_paperclips=1F587
lion_face=1F981 lips=1F444 lipstick=1F484 lithuania=1F1F1.1F1F9 litter_in_bin_sign=1F6AE
lizard=1F98E llama=1F999 lobster=1F99E lock=1F512 lock_with_ink_pen=1F50F locked=1F512
locked_with_key=1F510 locked_with_pen=1F50F locomotive=1F682 lollipop=1F36D loop=27BF
lotion_bottle=1F9F4 loud_sound=1F50A loudly_crying_face=1F62D loudspeaker=1F4E2
love-you_gesture=1F91F love-you_gesture_dark_skin_tone=1F91F.1F3FF
love-you_gesture_light_skin_tone=1F91F.1F3FB love-you_gesture_medium-dark_skin_tone=1F91F.1F3FE
love-you_gesture_medium-light_skin_tone=1F91F.1F3FC
love-you_gesture_medium_skin_tone=1F91F.1F3FD love_hotel=1F3E9 love_letter=1F48C
low_brightness=1F505 lower_left_ballpoint_pen=1F58A lower_left_crayon=1F58D
lower_left_fountain_pen=1F58B lower_left_paintbrush=1F58C luggage=1F9F3 luxembourg=1F1F1.1F1FA
lying_face=1F925 m=24C2 macau_sar_china=1F1F2.1F1F4 macedonia=1F1F2.1F1F0
madagascar=1F1F2.1F1EC mag=1F50D mag_right=1F50E mage=1F9D9 mage_dark_skin_tone=1F9D9.1F3FF
mage_light_skin_tone=1F9D9.1F3FB mage_medium-dark_skin_tone=1F9D9.1F3FE
mage_medium-light_skin_tone=1F9D9.1F3FC mage_medium_skin_tone=1F9D9.1F3FD magnet=1F9F2
magnifying_glass_tilted_left=1F50D magnifying_glass_tilted_right=1F50E mahjong=1F004
mahjong_red_dragon=1F004 mailbox=1F4EB mailbox_closed=1F4EA mailbox_with_mail=1F4EC
mailbox_with_no_mail=1F4ED malawi=1F1F2.1F1FC malaysia=1F1F2.1F1FE maldives=1F1F2.1F1FB
male_sign=2642 mali=1F1F2.1F1F1 malta=1F1F2.1F1F9 man=1F468 man_and_woman_holding_hands=1F46B
man_artist=1F468.200D.1F3A8 man_artist_dark_skin_tone=1F468.1F3FF.200D.1F3A8
man_artist_light_skin_tone=1F468.1F3FB.200D.1F3A8
man_artist_medium-dark_skin_tone=1F468.1F3FE.200D.1F3A8
man_artist_medium-light_skin_tone=1F468.1F3FC.200D.1F3A8
man_artist_medium_skin_tone=1F468.1F3FD.200D.1F3A8 man_astronaut=1F468.200D.1F680
man_astronaut_dark_skin_tone=1F468.1F3FF.200D.1F680
man_astronaut_light_skin_tone=1F468.1F3FB.200D.1F680
man_astronaut_medium-dark_skin_tone=1F468.1F3FE.200D.1F680
man_astronaut_medium-light_skin_tone=1F468.1F3FC.200D.1F680
man_astronaut_medium_skin_tone=1F468.1F3FD.200D.1F680 man_biking=1F6B4.200D.2642.FE0F
man_biking_dark_skin_tone=1F6B4.1F3FF.200D.2642.FE0F
man_biking_light_skin_tone=1F6B4.1F3FB.200D.2642.FE0F
man_biking_medium-dark_skin_tone=1F6B4.1F3FE.200D.2642.FE0F
man_biking_medium-light_skin_tone=1F6B4.1F3FC.200D.2642.FE0F
man_biking_medium_skin_tone=1F6B4.1F3FD.200D.2642.FE0F
man_bouncing_ball=26F9.FE0F.200D.2642.FE0F
man_bouncing_ball_dark_skin_tone=26F9.1F3FF.200D.2642.FE0F
man_bouncing_ball_light_skin_tone=26F9.1F3FB.200D.2642.FE0F
man_bouncing_ball_medium-dark_skin_tone=26F9.1F3FE.200D.2642.FE0F
man_bouncing_ball_medium-light_skin_tone=26F9.1F3FC.200D.2642.FE0F
man_bouncing_ball_medium_skin_tone=26F9.1F3FD.200D.2642.FE0F man_bowing=1F647.200D.2642.FE0F
man_bowing_dark_skin_tone=1F647.1F3FF.200D.2642.FE0F
man_bowing_light_skin_tone=1F647.1F3FB.200D.2642.FE0F
man_bowing_medium-dark_skin_tone=1F647.1F3FE.200D.2642.FE0F
man_bowing_medium-light_skin_tone=1F647.1F3FC.200D.2642.FE0F
man_bowing_medium_skin_tone=1F647.1F3FD.200D.2642.FE0F man_cartwheeling=1F938.200D.2642.FE0F
man_cartwheeling_dark_skin_tone=1F938.1F3FF.200D.2642.FE0F
man_cartwheeling_light_skin_tone=1F938.1F3FB.200D.2642.FE0F
man_cartwheeling_medium-dark_skin_tone=1F938.1F3FE.200D.2642.FE0F
man_cartwheeling_medium-light_skin_tone=1F938.1F3FC.200D.2642.FE0F
man_cartwheeling_medium_skin_tone=1F938.1F3FD.200D.2642.FE0F man_climbing=1F9D7.200D.2642.FE0F
man_climbing_dark_skin_tone=1F9D7.1F3FF.200D.2642.FE0F
man_climbing_light_skin_tone=1F9D7.1F3FB.200D.2642.FE0F
man_climbing_medium-dark_skin_tone=1F9D7.1F3FE.200D.2642.FE0F
man_climbing_medium-light_skin_tone=1F9D7.1F3FC.200D.2642.FE0F
man_climbing_medium_skin_tone=1F9D7.1F3FD.200D.2642.FE0F
man_construction_worker=1F477.200D.2642.FE0F
man_construction_worker_dark_skin_tone=1F477.1F3FF.200D.2642.FE0F
man_construction_worker_light_skin_tone=1F477.1F3FB.200D.2642.FE0F
man_construction_worker_medium-dark_skin_tone=1F477.1F3FE.200D.2642.FE0F
man_construction_worker_medium-light_skin_tone=1F477.1F3FC.200D.2642.FE0F
man_construction_worker_medium_skin_tone=1F477.1F3FD.200D.2642.FE0F man_cook=1F468.200D.1F373
man_cook_dark_skin_tone=1F468.1F3FF.200D.1F373 man_cook_light_skin_tone=1F468.1F3FB.200D.1F373
man_cook_medium-dark_skin_tone=1F468.1F3FE.200D.1F373
man_cook_medium-light_skin_tone=1F468.1F3FC.200D.1F373
man_cook_medium_skin_tone=1F468.1F3FD.200D.1F373 man_dancing=1F57A
man_dancing_dark_skin_tone=1F57A.1F3FF man_dancing_light_skin_tone=1F57A.1F3FB
man_dancing_medium-dark_skin_tone=1F57A.1F3FE man_dancing_medium-light_skin_tone=1F57A.1F3FC
man_dancing_medium_skin_tone=1F57A.1F3FD man_dark_skin_tone=1F468.1F3FF
man_detective=1F575.FE0F.200D.2642.FE0F man_detective_dark_skin_tone=1F575.1F3FF.200D.2642.FE0F
man_detective_light_skin_tone=1F575.1F3FB.200D.2642.FE0F
man_detective_medium-dark_skin_tone=1F575.1F3FE.200D.2642.FE0F
man_detective_medium-light_skin_tone=1F575.1F3FC.200D.2642.FE0F
man_detective_medium_skin_tone=1F575.1F3FD.200D.2642.FE0F man_elf=1F9DD.200D.2642.FE0F
man_elf_dark_skin_tone=1F9DD.1F3FF.200D.2642.FE0F
man_elf_light_skin_tone=1F9DD.1F3FB.200D.2642.FE0F
man_elf_medium-dark_skin_tone=1F9DD.1F3FE.200D.2642.FE0F
man_elf_medium-light_skin_tone=1F9DD.1F3FC.200D.2642.FE0F
man_elf_medium_skin_tone=1F9DD.1F3FD.200D.2642.FE0F man_facepalming=1F926.200D.2642.FE0F
man_facepalming_dark_skin_tone=1F926.1F3FF.200D.2642.FE0F
man_facepalming_light_skin_tone=1F926.1F3FB.200D.2642.FE0F
man_facepalming_medium-dark_skin_tone=1F926.1F3FE.200D.2642.FE0F
man_facepalming_medium-light_skin_tone=1F926.1F3FC.200D.2642.FE0F
man_facepalming_medium_skin_tone=1F926.1F3FD.200D.2642.FE0F man_factory_worker=1F468.200D.1F3ED
man_factory_worker_dark_skin_tone=1F468.1F3FF.200D.1F3ED
man_factory_worker_light_skin_tone=1F468.1F3FB.200D.1F3ED
man_factory_worker_medium-dark_skin_tone=1F468.1F3FE.200D.1F3ED
man_factory_worker_medium-light_skin_tone=1F468.1F3FC.200D.1F3ED
man_factory_worker_medium_skin_tone=1F468.1F3FD.200D.1F3ED man_fairy=1F9DA.200D.2642.FE0F
man_fairy_dark_skin_tone=1F9DA.1F3FF.200D.2642.FE0F
man_fairy_light_skin_tone=1F9DA.1F3FB.200D.2642.FE0F
man_fairy_medium-dark_skin_tone=1F9DA.1F3FE.200D.2642.FE0F
man_fairy_medium-light_skin_tone=1F9DA.1F3FC.200D.2642.FE0F
man_fairy_medium_skin_tone=1F9DA.1F3FD.200D.2642.FE0F man_farmer=1F468.200D.1F33E
man_farmer_dark_skin_tone=1F468.1F3FF.200D.1F33E
man_farmer_light_skin_tone=1F468.1F3FB.200D.1F33E
man_farmer_medium-dark_skin_tone=1F468.1F3FE.200D.1F33E
man_farmer_medium-light_skin_tone=1F468.1F3FC.200D.1F33E
man_farmer_medium_skin_tone=1F468.1F3FD.200D.1F33E man_firefighter=1F468.200D.1F692
man_firefighter_dark_skin_tone=1F468.1F3FF.200D.1F692
man_firefighter_light_skin_tone=1F468.1F3FB.200D.1F692
man_firefighter_medium-dark_skin_tone=1F468.1F3FE.200D.1F692
man_firefighter_medium-light_skin_tone=1F468.1F3FC.200D.1F692
man_firefighter_medium_skin_tone=1F468.1F3FD.200D.1F692 man_frowning=1F64D.200D.2642.FE0F
man_frowning_dark_skin_tone=1F64D.1F3FF.200D.2642.FE0F
man_frowning_light_skin_tone=1F64D.1F3FB.200D.2642.FE0F
man_frowning_medium-dark_skin_tone=1F64D.1F3FE.200D.2642.FE0F
man_frowning_medium-light_skin_tone=1F64D.1F3FC.200D.2642.FE0F
man_frowning_medium_skin_tone=1F64D.1F3FD.200D.2642.FE0F man_genie=1F9DE.200D.2642.FE0F
man_gesturing_no=1F645.200D.2642.FE0F
man_gesturing_no_dark_skin_tone=1F645.1F3FF.200D.2642.FE0F
man_gesturing_no_light_skin_tone=1F645.1F3FB.200D.2642.FE0F
man_gesturing_no_medium-dark_skin_tone=1F645.1F3FE.200D.2642.FE0F
man_gesturing_no_medium-light_skin_tone=1F645.1F3FC.200D.2642.FE0F
man_gesturing_no_medium_skin_tone=1F645.1F3FD.200D.2642.FE0F
man_gesturing_ok=1F646.200D.2642.FE0F
man_gesturing_ok_dark_skin_tone=1F646.1F3FF.200D.2642.FE0F
man_gesturing_ok_light_skin_tone=1F646.1F3FB.200D.2642.FE0F
man_gesturing_ok_medium-dark_skin_tone=1F646.1F3FE.200D.2642.FE0F
man_gesturing_ok_medium-light_skin_tone=1F646.1F3FC.200D.2642.FE0F
man_gesturing_ok_medium_skin_tone=1F646.1F3FD.200D.2642.FE0F
man_getting_haircut=1F487.200D.2642.FE0F
man_getting_haircut_dark_skin_tone=1F487.1F3FF.200D.2642.FE0F
man_getting_haircut_light_skin_tone=1F487.1F3FB.200D.2642.FE0F
man_getting_haircut_medium-dark_skin_tone=1F487.1F3FE.200D.2642.FE0F
man_getting_haircut_medium-light_skin_tone=1F487.1F3FC.200D.2642.FE0F
man_getting_haircut_medium_skin_tone=1F487.1F3FD.200D.2642.FE0F
man_getting_massage=1F486.200D.2642.FE0F
man_getting_massage_dark_skin_tone=1F486.1F3FF.200D.2642.FE0F
man_getting_massage_light_skin_tone=1F486.1F3FB.200D.2642.FE0F
man_getting_massage_medium-dark_skin_tone=1F486.1F3FE.200D.2642.FE0F
man_getting_massage_medium-light_skin_tone=1F486.1F3FC.200D.2642.FE0F
man_getting_massage_medium_skin_tone=1F486.1F3FD.200D.2642.FE0F
man_golfing=1F3CC.FE0F.200D.2642.FE0F man_golfing_dark_skin_tone=1F3CC.1F3FF.200D.2642.FE0F
man_golfing_light_skin_tone=1F3CC.1F3FB.200D.2642.FE0F
man_golfing_medium-dark_skin_tone=1F3CC.1F3FE.200D.2642.FE0F
man_golfing_medium-light_skin_tone=1F3CC.1F3FC.200D.2642.FE0F
man_golfing_medium_skin_tone=1F3CC.1F3FD.200D.2642.FE0F man_guard=1F482.200D.2642.FE0F
man_guard_dark_skin_tone=1F482.1F3FF.200D.2642.FE0F
man_guard_light_skin_tone=1F482.1F3FB.200D.2642.FE0F
man_guard_medium-dark_skin_tone=1F482.1F3FE.200D.2642.FE0F
man_guard_medium-light_skin_tone=1F482.1F3FC.200D.2642.FE0F
man_guard_medium_skin_tone=1F482.1F3FD.200D.2642.FE0F man_health_worker=1F468.200D.2695.FE0F
man_health_worker_dark_skin_tone=1F468.1F3FF.200D.2695.FE0F
man_health_worker_light_skin_tone=1F468.1F3FB.200D.2695.FE0F
man_health_worker_medium-dark_skin_tone=1F468.1F3FE.200D.2695.FE0F
man_health_worker_medium-light_skin_tone=1F468.1F3FC.200D.2695.FE0F
man_health_worker_medium_skin_tone=1F468.1F3FD.200D.2695.FE0F
man_in_business_suit_levitating=1F574 man_in_lotus_position=1F9D8.200D.2642.FE0F
man_in_lotus_position_dark_skin_tone=1F9D8.1F3FF.200D.2642.FE0F
man_in_lotus_position_light_skin_tone=1F9D8.1F3FB.200D.2642.FE0F
man_in_lotus_position_medium-dark_skin_tone=1F9D8.1F3FE.200D.2642.FE0F
man_in_lotus_position_medium-light_skin_tone=1F9D8.1F3FC.200D.2642.FE0F
man_in_lotus_position_medium_skin_tone=1F9D8.1F3FD.200D.2642.FE0F
man_in_manual_wheelchair=1F468.200D.1F9BD man_in_motorized_wheelchair=1F468.200D.1F9BC
man_in_steamy_room=1F9D6.200D.2642.FE0F
man_in_steamy_room_dark_skin_tone=1F9D6.1F3FF.200D.2642.FE0F
man_in_steamy_room_light_skin_tone=1F9D6.1F3FB.200D.2642.FE0F
man_in_steamy_room_medium-dark_skin_tone=1F9D6.1F3FE.200D.2642.FE0F
man_in_steamy_room_medium-light_skin_tone=1F9D6.1F3FC.200D.2642.FE0F
man_in_steamy_room_medium_skin_tone=1F9D6.1F3FD.200D.2642.FE0F man_in_suit_levitating=1F574
man_in_suit_levitating_dark_skin_tone=1F574.1F3FF
man_in_suit_levitating_light_skin_tone=1F574.1F3FB
man_in_suit_levitating_medium-dark_skin_tone=1F574.1F3FE
man_in_suit_levitating_medium-light_skin_tone=1F574.1F3FC
man_in_suit_levitating_medium_skin_tone=1F574.1F3FD man_in_tuxedo=1F935
man_in_tuxedo_dark_skin_tone=1F935.1F3FF man_in_tuxedo_light_skin_tone=1F935.1F3FB
man_in_tuxedo_medium-dark_skin_tone=1F935.1F3FE
man_in_tuxedo_medium-light_skin_tone=1F935.1F3FC man_in_tuxedo_medium_skin_tone=1F935.1F3FD
man_judge=1F468.200D.2696.FE0F man_judge_dark_skin_tone=1F468.1F3FF.200D.2696.FE0F
man_judge_light_skin_tone=1F468.1F3FB.200D.2696.FE0F
man_judge_medium-dark_skin_tone=1F468.1F3FE.200D.2696.FE0F
man_judge_medium-light_skin_tone=1F468.1F3FC.200D.2696.FE0F
man_judge_medium_skin_tone=1F468.1F3FD.200D.2696.FE0F man_juggling=1F939.200D.2642.FE0F
man_juggling_dark_skin_tone=1F939.1F3FF.200D.2642.FE0F
man_juggling_light_skin_tone=1F939.1F3FB.200D.2642.FE0F
man_juggling_medium-dark_skin_tone=1F939.1F3FE.200D.2642.FE0F
man_juggling_medium-light_skin_tone=1F939.1F3FC.200D.2642.FE0F
man_juggling_medium_skin_tone=1F939.1F3FD.200D.2642.FE0F
man_lifting_weights=1F3CB.FE0F.200D.2642.FE0F
man_lifting_weights_dark_skin_tone=1F3CB.1F3FF.200D.2642.FE0F
man_lifting_weights_light_skin_tone=1F3CB.1F3FB.200D.2642.FE0F
man_lifting_weights_medium-dark_skin_tone=1F3CB.1F3FE.200D.2642.FE0F
man_lifting_weights_medium-light_skin_tone=1F3CB.1F3FC.200D.2642.FE0F
man_lifting_weights_medium_skin_tone=1F3CB.1F3FD.200D.2642.FE0F man_light_skin_tone=1F468.1F3FB
man_mage=1F9D9.200D.2642.FE0F man_mage_dark_skin_tone=1F9D9.1F3FF.200D.2642.FE0F
man_mage_light_skin_tone=1F9D9.1F3FB.200D.2642.FE0F
man_mage_medium-dark_skin_tone=1F9D9.1F3FE.200D.2642.FE0F
man_mage_medium-light_skin_tone=1F9D9.1F3FC.200D.2642.FE0F
man_mage_medium_skin_tone=1F9D9.1F3FD.200D.2642.FE0F man_mechanic=1F468.200D.1F527
man_mechanic_dark_skin_tone=1F468.1F3FF.200D.1F527
man_mechanic_light_skin_tone=1F468.1F3FB.200D.1F527
man_mechanic_medium-dark_skin_tone=1F468.1F3FE.200D.1F527
man_mechanic_medium-light_skin_tone=1F468.1F3FC.200D.1F527
man_mechanic_medium_skin_tone=1F468.1F3FD.200D.1F527 man_medium-dark_skin_tone=1F468.1F3FE
man_medium-light_skin_tone=1F468.1F3FC man_medium_skin_tone=1F468.1F3FD
man_mountain_biking=1F6B5.200D.2642.FE0F
man_mountain_biking_dark_skin_tone=1F6B5.1F3FF.200D.2642.FE0F
man_mountain_biking_light_skin_tone=1F6B5.1F3FB.200D.2642.FE0F
man_mountain_biking_medium-dark_skin_tone=1F6B5.1F3FE.200D.2642.FE0F
man_mountain_biking_medium-light_skin_tone=1F6B5.1F3FC.200D.2642.FE0F
man_mountain_biking_medium_skin_tone=1F6B5.1F3FD.200D.2642.FE0F
man_office_worker=1F468.200D.1F4BC man_office_worker_dark_skin_tone=1F468.1F3FF.200D.1F4BC
man_office_worker_light_skin_tone=1F468.1F3FB.200D.1F4BC
man_office_worker_medium-dark_skin_tone=1F468.1F3FE.200D.1F4BC
man_office_worker_medium-light_skin_tone=1F468.1F3FC.200D.1F4BC
man_office_worker_medium_skin_tone=1F468.1F3FD.200D.1F4BC man_pilot=1F468.200D.2708.FE0F
man_pilot_dark_skin_tone=1F468.1F3FF.200D.2708.FE0F
man_pilot_light_skin_tone=1F468.1F3FB.200D.2708.FE0F
man_pilot_medium-dark_skin_tone=1F468.1F3FE.200D.2708.FE0F
man_pilot_medium-light_skin_tone=1F468.1F3FC.200D.2708.FE0F
man_pilot_medium_skin_tone=1F468.1F3FD.200D.2708.FE0F man_playing_handball=1F93E.200D.2642.FE0F
man_playing_handball_dark_skin_tone=1F93E.1F3FF.200D.2642.FE0F
man_playing_handball_light_skin_tone=1F93E.1F3FB.200D.2642.FE0F
man_playing_handball_medium-dark_skin_tone=1F93E.1F3FE.200D.2642.FE0F
man_playing_handball_medium-light_skin_tone=1F93E.1F3FC.200D.2642.FE0F
man_playing_handball_medium_skin_tone=1F93E.1F3FD.200D.2642.FE0F
man_playing_water_polo=1F93D.200D.2642.FE0F
man_playing_water_polo_dark_skin_tone=1F93D.1F3FF.200D.2642.FE0F
man_playing_water_polo_light_skin_tone=1F93D.1F3FB.200D.2642.FE0F
man_playing_water_polo_medium-dark_skin_tone=1F93D.1F3FE.200D.2642.FE0F
man_playing_water_polo_medium-light_skin_tone=1F93D.1F3FC.200D.2642.FE0F
man_playing_water_polo_medium_skin_tone=1F93D.1F3FD.200D.2642.FE0F
man_police_officer=1F46E.200D.2642.FE0F
man_police_officer_dark_skin_tone=1F46E.1F3FF.200D.2642.FE0F
man_police_officer_light_skin_tone=1F46E.1F3FB.200D.2642.FE0F
man_police_officer_medium-dark_skin_tone=1F46E.1F3FE.200D.2642.FE0F
man_police_officer_medium-light_skin_tone=1F46E.1F3FC.200D.2642.FE0F
man_police_officer_medium_skin_tone=1F46E.1F3FD.200D.2642.FE0F man_pouting=1F64E.200D.2642.FE0F
man_pouting_dark_skin_tone=1F64E.1F3FF.200D.2642.FE0F
man_pouting_light_skin_tone=1F64E.1F3FB.200D.2642.FE0F
man_pouting_medium-dark_skin_tone=1F64E.1F3FE.200D.2642.FE0F
man_pouting_medium-light_skin_tone=1F64E.1F3FC.200D.2642.FE0F
man_pouting_medium_skin_tone=1F64E.1F3FD.200D.2642.FE0F man_raising_hand=1F64B.200D.2642.FE0F
man_raising_hand_dark_skin_tone=1F64B.1F3FF.200D.2642.FE0F
man_raising_hand_light_skin_tone=1F64B.1F3FB.200D.2642.FE0F
man_raising_hand_medium-dark_skin_tone=1F64B.1F3FE.200D.2642.FE0F
man_raising_hand_medium-light_skin_tone=1F64B.1F3FC.200D.2642.FE0F
man_raising_hand_medium_skin_tone=1F64B.1F3FD.200D.2642.FE0F
man_rowing_boat=1F6A3.200D.2642.FE0F man_rowing_boat_dark_skin_tone=1F6A3.1F3FF.200D.2642.FE0F
man_rowing_boat_light_skin_tone=1F6A3.1F3FB.200D.2642.FE0F
man_rowing_boat_medium-dark_skin_tone=1F6A3.1F3FE.200D.2642.FE0F
man_rowing_boat_medium-light_skin_tone=1F6A3.1F3FC.200D.2642.FE0F
man_rowing_boat_medium_skin_tone=1F6A3.1F3FD.200D.2642.FE0F man_running=1F3C3.200D.2642.FE0F
man_running_dark_skin_tone=1F3C3.1F3FF.200D.2642.FE0F
man_running_light_skin_tone=1F3C3.1F3FB.200D.2642.FE0F
man_running_medium-dark_skin_tone=1F3C3.1F3FE.200D.2642.FE0F
man_running_medium-light_skin_tone=1F3C3.1F3FC.200D.2642.FE0F
man_running_medium_skin_tone=1F3C3.1F3FD.200D.2642.FE0F man_scientist=1F468.200D.1F52C
man_scientist_dark_skin_tone=1F468.1F3FF.200D.1F52C
man_scientist_light_skin_tone=1F468.1F3FB.200D.1F52C
man_scientist_medium-dark_skin_tone=1F468.1F3FE.200D.1F52C
man_scientist_medium-light_skin_tone=1F468.1F3FC.200D.1F52C
man_scientist_medium_skin_tone=1F468.1F3FD.200D.1F52C man_shrugging=1F937.200D.2642.FE0F
man_shrugging_dark_skin_tone=1F937.1F3FF.200D.2642.FE0F
man_shrugging_light_skin_tone=1F937.1F3FB.200D.2642.FE0F
man_shrugging_medium-dark_skin_tone=1F937.1F3FE.200D.2642.FE0F
man_shrugging_medium-light_skin_tone=1F937.1F3FC.200D.2642.FE0F
man_shrugging_medium_skin_tone=1F937.1F3FD.200D.2642.FE0F man_singer=1F468.200D.1F3A4
man_singer_dark_skin_tone=1F468.1F3FF.200D.1F3A4
man_singer_light_skin_tone=1F468.1F3FB.200D.1F3A4
man_singer_medium-dark_skin_tone=1F468.1F3FE.200D.1F3A4
man_singer_medium-light_skin_tone=1F468.1F3FC.200D.1F3A4
man_singer_medium_skin_tone=1F468.1F3FD.200D.1F3A4 man_student=1F468.200D.1F393
man_student_dark_skin_tone=1F468.1F3FF.200D.1F393
man_student_light_skin_tone=1F468.1F3FB.200D.1F393
man_student_medium-dark_skin_tone=1F468.1F3FE.200D.1F393
man_student_medium-light_skin_tone=1F468.1F3FC.200D.1F393
man_student_medium_skin_tone=1F468.1F3FD.200D.1F393 man_surfing=1F3C4.200D.2642.FE0F
man_surfing_dark_skin_tone=1F3C4.1F3FF.200D.2642.FE0F
man_surfing_light_skin_tone=1F3C4.1F3FB.200D.2642.FE0F
man_surfing_medium-dark_skin_tone=1F3C4.1F3FE.200D.2642.FE0F
man_surfing_medium-light_skin_tone=1F3C4.1F3FC.200D.2642.FE0F
man_surfing_medium_skin_tone=1F3C4.1F3FD.200D.2642.FE0F man_swimming=1F3CA.200D.2642.FE0F
man_swimming_dark_skin_tone=1F3CA.1F3FF.200D.2642.FE0F
man_swimming_light_skin_tone=1F3CA.1F3FB.200D.2642.FE0F
man_swimming_medium-dark_skin_tone=1F3CA.1F3FE.200D.2642.FE0F
man_swimming_medium-light_skin_tone=1F3CA.1F3FC.200D.2642.FE0F
man_swimming_medium_skin_tone=1F3CA.1F3FD.200D.2642.FE0F man_teacher=1F468.200D.1F3EB
man_teacher_dark_skin_tone=1F468.1F3FF.200D.1F3EB
man_teacher_light_skin_tone=1F468.1F3FB.200D.1F3EB
man_teacher_medium-dark_skin_tone=1F468.1F3FE.200D.1F3EB
man_teacher_medium-light_skin_tone=1F468.1F3FC.200D.1F3EB
man_teacher_medium_skin_tone=1F468.1F3FD.200D.1F3EB man_technologist=1F468.200D.1F4BB
man_technologist_dark_skin_tone=1F468.1F3FF.200D.1F4BB
man_technologist_light_skin_tone=1F468.1F3FB.200D.1F4BB
man_technologist_medium-dark_skin_tone=1F468.1F3FE.200D.1F4BB
man_technologist_medium-light_skin_tone=1F468.1F3FC.200D.1F4BB
man_technologist_medium_skin_tone=1F468.1F3FD.200D.1F4BB man_tipping_hand=1F481.200D.2642.FE0F
man_tipping_hand_dark_skin_tone=1F481.1F3FF.200D.2642.FE0F
man_tipping_hand_light_skin_tone=1F481.1F3FB.200D.2642.FE0F
man_tipping_hand_medium-dark_skin_tone=1F481.1F3FE.200D.2642.FE0F
man_tipping_hand_medium-light_skin_tone=1F481.1F3FC.200D.2642.FE0F
man_tipping_hand_medium_skin_tone=1F481.1F3FD.200D.2642.FE0F man_vampire=1F9DB.200D.2642.FE0F
man_vampire_dark_skin_tone=1F9DB.1F3FF.200D.2642.FE0F
man_vampire_light_skin_tone=1F9DB.1F3FB.200D.2642.FE0F
man_vampire_medium-dark_skin_tone=1F9DB.1F3FE.200D.2642.FE0F
man_vampire_medium-light_skin_tone=1F9DB.1F3FC.200D.2642.FE0F
man_vampire_medium_skin_tone=1F9DB.1F3FD.200D.2642.FE0F man_walking=1F6B6.200D.2642.FE0F
man_walking_dark_skin_tone=1F6B6.1F3FF.200D.2642.FE0F
man_walking_light_skin_tone=1F6B6.1F3FB.200D.2642.FE0F
man_walking_medium-dark_skin_tone=1F6B6.1F3FE.200D.2642.FE0F
man_walking_medium-light_skin_tone=1F6B6.1F3FC.200D.2642.FE0F
man_walking_medium_skin_tone=1F6B6.1F3FD.200D.2642.FE0F man_wearing_turban=1F473.200D.2642.FE0F
man_wearing_turban_dark_skin_tone=1F473.1F3FF.200D.2642.FE0F
man_wearing_turban_light_skin_tone=1F473.1F3FB.200D.2642.FE0F
man_wearing_turban_medium-dark_skin_tone=1F473.1F3FE.200D.2642.FE0F
man_wearing_turban_medium-light_skin_tone=1F473.1F3FC.200D.2642.FE0F
man_wearing_turban_medium_skin_tone=1F473.1F3FD.200D.2642.FE0F man_with_chinese_cap=1F472
man_with_chinese_cap_dark_skin_tone=1F472.1F3FF
man_with_chinese_cap_light_skin_tone=1F472.1F3FB
man_with_chinese_cap_medium-dark_skin_tone=1F472.1F3FE
man_with_chinese_cap_medium-light_skin_tone=1F472.1F3FC
man_with_chinese_cap_medium_skin_tone=1F472.1F3FD man_with_gua_pi_mao=1F472
man_with_probing_cane=1F468.200D.1F9AF man_with_turban=1F473 man_zombie=1F9DF.200D.2642.FE0F
mango=1F96D mans_shoe=1F45E mantelpiece_clock=1F570 manual_wheelchair=1F9BD man’s_shoe=1F45E
map_of_japan=1F5FE maple_leaf=1F341 marshall_islands=1F1F2.1F1ED martial_arts_uniform=1F94B
martinique=1F1F2.1F1F6 mask=1F637 massage=1F486 mate=1F9C9 mauritania=1F1F2.1F1F7
mauritius=1F1F2.1F1FA mayotte=1F1FE.1F1F9 meat_on_bone=1F356 mechanical_arm=1F9BE
mechanical_leg=1F9BF medical_symbol=2695 medium_dark_skin_tone=1F3FE
medium_light_skin_tone=1F3FC medium_skin_tone=1F3FD mega=1F4E3 megaphone=1F4E3 melon=1F348
memo=1F4DD men_with_bunny_ears=1F46F.200D.2642.FE0F men_wrestling=1F93C.200D.2642.FE0F
menorah=1F54E menorah_with_nine_branches=1F54E mens=1F6B9 men’s_room=1F6B9
mermaid=1F9DC.200D.2640.FE0F mermaid_dark_skin_tone=1F9DC.1F3FF.200D.2640.FE0F
mermaid_light_skin_tone=1F9DC.1F3FB.200D.2640.FE0F
mermaid_medium-dark_skin_tone=1F9DC.1F3FE.200D.2640.FE0F
mermaid_medium-light_skin_tone=1F9DC.1F3FC.200D.2640.FE0F
mermaid_medium_skin_tone=1F9DC.1F3FD.200D.2640.FE0F merman=1F9DC.200D.2642.FE0F
merman_dark_skin_tone=1F9DC.1F3FF.200D.2642.FE0F
merman_light_skin_tone=1F9DC.1F3FB.200D.2642.FE0F
merman_medium-dark_skin_tone=1F9DC.1F3FE.200D.2642.FE0F
merman_medium-light_skin_tone=1F9DC.1F3FC.200D.2642.FE0F
merman_medium_skin_tone=1F9DC.1F3FD.200D.2642.FE0F merperson=1F9DC
merperson_dark_skin_tone=1F9DC.1F3FF merperson_light_skin_tone=1F9DC.1F3FB
merperson_medium-dark_skin_tone=1F9DC.1F3FE merperson_medium-light_skin_tone=1F9DC.1F3FC
merperson_medium_skin_tone=1F9DC.1F3FD metro=1F687 mexico=1F1F2.1F1FD microbe=1F9A0
micronesia=1F1EB.1F1F2 microphone=1F3A4 microscope=1F52C middle_finger=1F595
middle_finger_dark_skin_tone=1F595.1F3FF middle_finger_light_skin_tone=1F595.1F3FB
middle_finger_medium-dark_skin_tone=1F595.1F3FE
middle_finger_medium-light_skin_tone=1F595.1F3FC middle_finger_medium_skin_tone=1F595.1F3FD
military_medal=1F396 milky_way=1F30C minibus=1F690 minidisc=1F4BD moai=1F5FF mobile_phone=1F4F1
mobile_phone_off=1F4F4 mobile_phone_with_arrow=1F4F2 moldova=1F1F2.1F1E9 monaco=1F1F2.1F1E8
money-mouth_face=1F911 money__mouth_face=1F911 money_bag=1F4B0 money_with_wings=1F4B8
moneybag=1F4B0 mongolia=1F1F2.1F1F3 monkey=1F412 monkey_face=1F435 monorail=1F69D
montenegro=1F1F2.1F1EA montserrat=1F1F2.1F1F8 moon=1F314 moon_cake=1F96E
moon_viewing_ceremony=1F391 morocco=1F1F2.1F1E6 mortar_board=1F393 mosque=1F54C mosquito=1F99F
motor_boat=1F6E5 motor_scooter=1F6F5 motorcycle=1F3CD motorized_wheelchair=1F9BC motorway=1F6E3
mount_fuji=1F5FB mountain=26F0 mountain_bicyclist=1F6B5 mountain_cableway=1F6A0
mountain_railway=1F69E mouse=1F42D mouse2=1F401 mouse_face=1F42D mouth=1F444 movie_camera=1F3A5
moyai=1F5FF mozambique=1F1F2.1F1FF mrs._claus=1F936 mrs._claus_dark_skin_tone=1F936.1F3FF
mrs._claus_light_skin_tone=1F936.1F3FB mrs._claus_medium-dark_skin_tone=1F936.1F3FE
mrs._claus_medium-light_skin_tone=1F936.1F3FC mrs._claus_medium_skin_tone=1F936.1F3FD
muscle=1F4AA mushroom=1F344 musical_keyboard=1F3B9 musical_note=1F3B5 musical_notes=1F3B6
musical_score=1F3BC mute=1F507 muted_speaker=1F507 myanmar_(burma)=1F1F2.1F1F2 nail_care=1F485
nail_polish=1F485 nail_polish_dark_skin_tone=1F485.1F3FF
nail_polish_light_skin_tone=1F485.1F3FB nail_polish_medium-dark_skin_tone=1F485.1F3FE
nail_polish_medium-light_skin_tone=1F485.1F3FC nail_polish_medium_skin_tone=1F485.1F3FD
name_badge=1F4DB namibia=1F1F3.1F1E6 national_park=1F3DE nauru=1F1F3.1F1F7 nauseated_face=1F922
nazar_amulet=1F9FF necktie=1F454 negative_squared_cross_mark=274E nepal=1F1F3.1F1F5
nerd_face=1F913 netherlands=1F1F3.1F1F1 neutral_face=1F610 new=1F195 new_button=1F195
new_caledonia=1F1F3.1F1E8 new_moon=1F311 new_moon_face=1F31A new_moon_with_face=1F31A
new_zealand=1F1F3.1F1FF newspaper=1F4F0 next_track_button=23ED ng=1F196 ng_button=1F196
nicaragua=1F1F3.1F1EE niger=1F1F3.1F1EA nigeria=1F1F3.1F1EC night_with_stars=1F303
nine=39.FE0F.20E3 nine-thirty=1F564 nine_o’clock=1F558 niue=1F1F3.1F1FA no_bell=1F515
no_bicycles=1F6B3 no_entry=26D4 no_entry_sign=1F6AB no_good=1F645 no_littering=1F6AF
no_mobile_phones=1F4F5 no_mouth=1F636 no_one_under_eighteen=1F51E no_pedestrians=1F6B7
no_smoking=1F6AD non-potable_water=1F6B1 non__potable_water=1F6B1 norfolk_island=1F1F3.1F1EB
north_korea=1F1F0.1F1F5 northern_mariana_islands=1F1F2.1F1F5 norway=1F1F3.1F1F4 nose=1F443
nose_dark_skin_tone=1F443.1F3FF nose_light_skin_tone=1F443.1F3FB
nose_medium-dark_skin_tone=1F443.1F3FE nose_medium-light_skin_tone=1F443.1F3FC
nose_medium_skin_tone=1F443.1F3FD notebook=1F4D3 notebook_with_decorative_cover=1F4D4
notes=1F3B6 nut_and_bolt=1F529 o=2B55 o2=1F17E o_button_(blood_type)=1F17E ocean=1F30A
octopus=1F419 oden=1F362 office=1F3E2 office_building=1F3E2 ogre=1F479 oil_drum=1F6E2 ok=1F197
ok_button=1F197 ok_hand=1F44C ok_hand_dark_skin_tone=1F44C.1F3FF
ok_hand_light_skin_tone=1F44C.1F3FB ok_hand_medium-dark_skin_tone=1F44C.1F3FE
ok_hand_medium-light_skin_tone=1F44C.1F3FC ok_hand_medium_skin_tone=1F44C.1F3FD ok_woman=1F646
old_key=1F5DD old_man=1F474 old_man_dark_skin_tone=1F474.1F3FF
old_man_light_skin_tone=1F474.1F3FB old_man_medium-dark_skin_tone=1F474.1F3FE
old_man_medium-light_skin_tone=1F474.1F3FC old_man_medium_skin_tone=1F474.1F3FD old_woman=1F475
old_woman_dark_skin_tone=1F475.1F3FF old_woman_light_skin_tone=1F475.1F3FB
old_woman_medium-dark_skin_tone=1F475.1F3FE old_woman_medium-light_skin_tone=1F475.1F3FC
old_woman_medium_skin_tone=1F475.1F3FD older_adult=1F9D3 older_adult_dark_skin_tone=1F9D3.1F3FF
older_adult_light_skin_tone=1F9D3.1F3FB older_adult_medium-dark_skin_tone=1F9D3.1F3FE
older_adult_medium-light_skin_tone=1F9D3.1F3FC older_adult_medium_skin_tone=1F9D3.1F3FD
older_man=1F474 older_woman=1F475 om=1F549 om_symbol=1F549 oman=1F1F4.1F1F2 on=1F51B
on!_arrow=1F51B oncoming_automobile=1F698 oncoming_bus=1F68D oncoming_fist=1F44A
oncoming_fist_dark_skin_tone=1F44A.1F3FF oncoming_fist_light_skin_tone=1F44A.1F3FB
oncoming_fist_medium-dark_skin_tone=1F44A.1F3FE
oncoming_fist_medium-light_skin_tone=1F44A.1F3FC oncoming_fist_medium_skin_tone=1F44A.1F3FD
oncoming_police_car=1F694 oncoming_taxi=1F696 one=31.FE0F.20E3 one-piece_swimsuit=1FA71
one-thirty=1F55C one_o’clock=1F550 onion=1F9C5 open_book=1F4D6 open_file_folder=1F4C2
open_hands=1F450 open_hands_dark_skin_tone=1F450.1F3FF open_hands_light_skin_tone=1F450.1F3FB
open_hands_medium-dark_skin_tone=1F450.1F3FE open_hands_medium-light_skin_tone=1F450.1F3FC
open_hands_medium_skin_tone=1F450.1F3FD open_mailbox_with_lowered_flag=1F4ED
open_mailbox_with_raised_flag=1F4EC open_mouth=1F62E ophiuchus=26CE optical_disk=1F4BF
orange_book=1F4D9 orange_circle=1F7E0 orange_heart=1F9E1 orange_square=1F7E7 orangutan=1F9A7
orthodox_cross=2626 otter=1F9A6 outbox_tray=1F4E4 owl=1F989 ox=1F402 oyster=1F9AA
p_button=1F17F package=1F4E6 page_facing_up=1F4C4 page_with_curl=1F4C3 pager=1F4DF
paintbrush=1F58C pakistan=1F1F5.1F1F0 palau=1F1F5.1F1FC palestinian_territories=1F1F5.1F1F8
palm_tree=1F334 palms_up_together=1F932 palms_up_together_dark_skin_tone=1F932.1F3FF
palms_up_together_light_skin_tone=1F932.1F3FB
palms_up_together_medium-dark_skin_tone=1F932.1F3FE
palms_up_together_medium-light_skin_tone=1F932.1F3FC
palms_up_together_medium_skin_tone=1F932.1F3FD panama=1F1F5.1F1E6 pancakes=1F95E
panda_face=1F43C paperclip=1F4CE papua_new_guinea=1F1F5.1F1EC paraguay=1F1F5.1F1FE
parking=1F17F parrot=1F99C part_alternation_mark=303D partly_sunny=26C5 party_popper=1F389
partying_face=1F973 passenger_ship=1F6F3 passport_control=1F6C2 pause_button=23F8
paw_prints=1F43E peace_symbol=262E peach=1F351 peacock=1F99A peanuts=1F95C pear=1F350 pen=1F58A
pencil=1F4DD pencil2=270F penguin=1F427 pensive=1F614 pensive_face=1F614
people_holding_hands=1F9D1.200D.1F91D.200D.1F9D1 people_with_bunny_ears=1F46F
people_wrestling=1F93C performing_arts=1F3AD persevere=1F623 persevering_face=1F623
person_biking=1F6B4 person_biking_dark_skin_tone=1F6B4.1F3FF
person_biking_light_skin_tone=1F6B4.1F3FB person_biking_medium-dark_skin_tone=1F6B4.1F3FE
person_biking_medium-light_skin_tone=1F6B4.1F3FC person_biking_medium_skin_tone=1F6B4.1F3FD
person_bouncing_ball=26F9 person_bouncing_ball_dark_skin_tone=26F9.1F3FF
person_bouncing_ball_light_skin_tone=26F9.1F3FB
person_bouncing_ball_medium-dark_skin_tone=26F9.1F3FE
person_bouncing_ball_medium-light_skin_tone=26F9.1F3FC
person_bouncing_ball_medium_skin_tone=26F9.1F3FD person_bowing=1F647
person_bowing_dark_skin_tone=1F647.1F3FF person_bowing_light_skin_tone=1F647.1F3FB
person_bowing_medium-dark_skin_tone=1F647.1F3FE
person_bowing_medium-light_skin_tone=1F647.1F3FC person_bowing_medium_skin_tone=1F647.1F3FD
person_cartwheeling=1F938 person_cartwheeling_dark_skin_tone=1F938.1F3FF
person_cartwheeling_light_skin_tone=1F938.1F3FB
person_cartwheeling_medium-dark_skin_tone=1F938.1F3FE
person_cartwheeling_medium-light_skin_tone=1F938.1F3FC
person_cartwheeling_medium_skin_tone=1F938.1F3FD person_climbing=1F9D7
person_climbing_dark_skin_tone=1F9D7.1F3FF person_climbing_light_skin_tone=1F9D7.1F3FB
person_climbing_medium-dark_skin_tone=1F9D7.1F3FE
person_climbing_medium-light_skin_tone=1F9D7.1F3FC person_climbing_medium_skin_tone=1F9D7.1F3FD
person_facepalming=1F926 person_facepalming_dark_skin_tone=1F926.1F3FF
person_facepalming_light_skin_tone=1F926.1F3FB
person_facepalming_medium-dark_skin_tone=1F926.1F3FE
person_facepalming_medium-light_skin_tone=1F926.1F3FC
person_facepalming_medium_skin_tone=1F926.1F3FD person_fencing=1F93A person_frowning=1F64D
person_frowning_dark_skin_tone=1F64D.1F3FF person_frowning_light_skin_tone=1F64D.1F3FB
person_frowning_medium-dark_skin_tone=1F64D.1F3FE
person_frowning_medium-light_skin_tone=1F64D.1F3FC person_frowning_medium_skin_tone=1F64D.1F3FD
person_gesturing_no=1F645 person_gesturing_no_dark_skin_tone=1F645.1F3FF
person_gesturing_no_light_skin_tone=1F645.1F3FB
person_gesturing_no_medium-dark_skin_tone=1F645.1F3FE
person_gesturing_no_medium-light_skin_tone=1F645.1F3FC
person_gesturing_no_medium_skin_tone=1F645.1F3FD person_gesturing_ok=1F646
person_gesturing_ok_dark_skin_tone=1F646.1F3FF person_gesturing_ok_light_skin_tone=1F646.1F3FB
person_gesturing_ok_medium-dark_skin_tone=1F646.1F3FE
person_gesturing_ok_medium-light_skin_tone=1F646.1F3FC
person_gesturing_ok_medium_skin_tone=1F646.1F3FD person_getting_haircut=1F487
person_getting_haircut_dark_skin_tone=1F487.1F3FF
person_getting_haircut_light_skin_tone=1F487.1F3FB
person_getting_haircut_medium-dark_skin_tone=1F487.1F3FE
person_getting_haircut_medium-light_skin_tone=1F487.1F3FC
person_getting_haircut_medium_skin_tone=1F487.1F3FD person_getting_massage=1F486
person_getting_massage_dark_skin_tone=1F486.1F3FF
person_getting_massage_light_skin_tone=1F486.1F3FB
person_getting_massage_medium-dark_skin_tone=1F486.1F3FE
person_getting_massage_medium-light_skin_tone=1F486.1F3FC
person_getting_massage_medium_skin_tone=1F486.1F3FD person_golfing=1F3CC
person_golfing_dark_skin_tone=1F3CC.1F3FF person_golfing_light_skin_tone=1F3CC.1F3FB
person_golfing_medium-dark_skin_tone=1F3CC.1F3FE
person_golfing_medium-light_skin_tone=1F3CC.1F3FC person_golfing_medium_skin_tone=1F3CC.1F3FD
person_in_bed=1F6CC person_in_bed_dark_skin_tone=1F6CC.1F3FF
person_in_bed_light_skin_tone=1F6CC.1F3FB person_in_bed_medium-dark_skin_tone=1F6CC.1F3FE
person_in_bed_medium-light_skin_tone=1F6CC.1F3FC person_in_bed_medium_skin_tone=1F6CC.1F3FD
person_in_lotus_position=1F9D8 person_in_lotus_position_dark_skin_tone=1F9D8.1F3FF
person_in_lotus_position_light_skin_tone=1F9D8.1F3FB
person_in_lotus_position_medium-dark_skin_tone=1F9D8.1F3FE
person_in_lotus_position_medium-light_skin_tone=1F9D8.1F3FC
person_in_lotus_position_medium_skin_tone=1F9D8.1F3FD person_in_steamy_room=1F9D6
person_in_steamy_room_dark_skin_tone=1F9D6.1F3FF
person_in_steamy_room_light_skin_tone=1F9D6.1F3FB
person_in_steamy_room_medium-dark_skin_tone=1F9D6.1F3FE
person_in_steamy_room_medium-light_skin_tone=1F9D6.1F3FC
person_in_steamy_room_medium_skin_tone=1F9D6.1F3FD person_juggling=1F939
person_juggling_dark_skin_tone=1F939.1F3FF person_juggling_light_skin_tone=1F939.1F3FB
person_juggling_medium-dark_skin_tone=1F939.1F3FE
person_juggling_medium-light_skin_tone=1F939.1F3FC person_juggling_medium_skin_tone=1F939.1F3FD
person_kneeling=1F9CE person_lifting_weights=1F3CB
person_lifting_weights_dark_skin_tone=1F3CB.1F3FF
person_lifting_weights_light_skin_tone=1F3CB.1F3FB
person_lifting_weights_medium-dark_skin_tone=1F3CB.1F3FE
person_lifting_weights_medium-light_skin_tone=1F3CB.1F3FC
person_lifting_weights_medium_skin_tone=1F3CB.1F3FD person_mountain_biking=1F6B5
person_mountain_biking_dark_skin_tone=1F6B5.1F3FF
person_mountain_biking_light_skin_tone=1F6B5.1F3FB
person_mountain_biking_medium-dark_skin_tone=1F6B5.1F3FE
person_mountain_biking_medium-light_skin_tone=1F6B5.1F3FC
person_mountain_biking_medium_skin_tone=1F6B5.1F3FD person_playing_handball=1F93E
person_playing_handball_dark_skin_tone=1F93E.1F3FF
person_playing_handball_light_skin_tone=1F93E.1F3FB
person_playing_handball_medium-dark_skin_tone=1F93E.1F3FE
person_playing_handball_medium-light_skin_tone=1F93E.1F3FC
person_playing_handball_medium_skin_tone=1F93E.1F3FD person_playing_water_polo=1F93D
person_playing_water_polo_dark_skin_tone=1F93D.1F3FF
person_playing_water_polo_light_skin_tone=1F93D.1F3FB
person_playing_water_polo_medium-dark_skin_tone=1F93D.1F3FE
person_playing_water_polo_medium-light_skin_tone=1F93D.1F3FC
person_playing_water_polo_medium_skin_tone=1F93D.1F3FD person_pouting=1F64E
person_pouting_dark_skin_tone=1F64E.1F3FF person_pouting_light_skin_tone=1F64E.1F3FB
person_pouting_medium-dark_skin_tone=1F64E.1F3FE
person_pouting_medium-light_skin_tone=1F64E.1F3FC person_pouting_medium_skin_tone=1F64E.1F3FD
person_raising_hand=1F64B person_raising_hand_dark_skin_tone=1F64B.1F3FF
person_raising_hand_light_skin_tone=1F64B.1F3FB
person_raising_hand_medium-dark_skin_tone=1F64B.1F3FE
person_raising_hand_medium-light_skin_tone=1F64B.1F3FC
person_raising_hand_medium_skin_tone=1F64B.1F3FD person_rowing_boat=1F6A3
person_rowing_boat_dark_skin_tone=1F6A3.1F3FF person_rowing_boat_light_skin_tone=1F6A3.1F3FB
person_rowing_boat_medium-dark_skin_tone=1F6A3.1F3FE
person_rowing_boat_medium-light_skin_tone=1F6A3.1F3FC
person_rowing_boat_medium_skin_tone=1F6A3.1F3FD person_running=1F3C3
person_running_dark_skin_tone=1F3C3.1F3FF person_running_light_skin_tone=1F3C3.1F3FB
person_running_medium-dark_skin_tone=1F3C3.1F3FE
person_running_medium-light_skin_tone=1F3C3.1F3FC person_running_medium_skin_tone=1F3C3.1F3FD
person_shrugging=1F937 person_shrugging_dark_skin_tone=1F937.1F3FF
person_shrugging_light_skin_tone=1F937.1F3FB person_shrugging_medium-dark_skin_tone=1F937.1F3FE
person_shrugging_medium-light_skin_tone=1F937.1F3FC
person_shrugging_medium_skin_tone=1F937.1F3FD person_standing=1F9CD person_surfing=1F3C4
person_surfing_dark_skin_tone=1F3C4.1F3FF person_surfing_light_skin_tone=1F3C4.1F3FB
person_surfing_medium-dark_skin_tone=1F3C4.1F3FE
person_surfing_medium-light_skin_tone=1F3C4.1F3FC person_surfing_medium_skin_tone=1F3C4.1F3FD
person_swimming=1F3CA person_swimming_dark_skin_tone=1F3CA.1F3FF
person_swimming_light_skin_tone=1F3CA.1F3FB person_swimming_medium-dark_skin_tone=1F3CA.1F3FE
person_swimming_medium-light_skin_tone=1F3CA.1F3FC person_swimming_medium_skin_tone=1F3CA.1F3FD
person_taking_bath=1F6C0 person_taking_bath_dark_skin_tone=1F6C0.1F3FF
person_taking_bath_light_skin_tone=1F6C0.1F3FB
person_taking_bath_medium-dark_skin_tone=1F6C0.1F3FE
person_taking_bath_medium-light_skin_tone=1F6C0.1F3FC
person_taking_bath_medium_skin_tone=1F6C0.1F3FD person_tipping_hand=1F481
person_tipping_hand_dark_skin_tone=1F481.1F3FF person_tipping_hand_light_skin_tone=1F481.1F3FB
person_tipping_hand_medium-dark_skin_tone=1F481.1F3FE
person_tipping_hand_medium-light_skin_tone=1F481.1F3FC
person_tipping_hand_medium_skin_tone=1F481.1F3FD person_walking=1F6B6
person_walking_dark_skin_tone=1F6B6.1F3FF person_walking_light_skin_tone=1F6B6.1F3FB
person_walking_medium-dark_skin_tone=1F6B6.1F3FE
person_walking_medium-light_skin_tone=1F6B6.1F3FC person_walking_medium_skin_tone=1F6B6.1F3FD
person_wearing_turban=1F473 person_wearing_turban_dark_skin_tone=1F473.1F3FF
person_wearing_turban_light_skin_tone=1F473.1F3FB
person_wearing_turban_medium-dark_skin_tone=1F473.1F3FE
person_wearing_turban_medium-light_skin_tone=1F473.1F3FC
person_wearing_turban_medium_skin_tone=1F473.1F3FD person_with_ball=26F9
person_with_blond_hair=1F471 person_with_pouting_face=1F64E peru=1F1F5.1F1EA petri_dish=1F9EB
philippines=1F1F5.1F1ED phone=260E pick=26CF pie=1F967 pig=1F437 pig2=1F416 pig_face=1F437
pig_nose=1F43D pile_of_poo=1F4A9 pill=1F48A pinching_hand=1F90F pine_decoration=1F38D
pineapple=1F34D ping_pong=1F3D3 pirate_flag=1F3F4.200D.2620.FE0F pisces=2653 pistol=1F52B
pitcairn_islands=1F1F5.1F1F3 pizza=1F355 place_of_worship=1F6D0 play_button=25B6
play_or_pause_button=23EF pleading_face=1F97A point_down=1F447 point_left=1F448
point_right=1F449 point_up=261D point_up_2=1F446 poland=1F1F5.1F1F1 police_car=1F693
police_car_light=1F6A8 police_officer=1F46E police_officer_dark_skin_tone=1F46E.1F3FF
police_officer_light_skin_tone=1F46E.1F3FB police_officer_medium-dark_skin_tone=1F46E.1F3FE
police_officer_medium-light_skin_tone=1F46E.1F3FC police_officer_medium_skin_tone=1F46E.1F3FD
poodle=1F429 pool_8_ball=1F3B1 poop=1F4A9 popcorn=1F37F portugal=1F1F5.1F1F9 post_office=1F3E3
postal_horn=1F4EF postbox=1F4EE pot_of_food=1F372 potable_water=1F6B0 potato=1F954 pouch=1F45D
poultry_leg=1F357 pound=1F4B7 pound_banknote=1F4B7 pouting_cat=1F63E pouting_cat_face=1F63E
pouting_face=1F621 pray=1F64F prayer_beads=1F4FF pregnant_woman=1F930
pregnant_woman_dark_skin_tone=1F930.1F3FF pregnant_woman_light_skin_tone=1F930.1F3FB
pregnant_woman_medium-dark_skin_tone=1F930.1F3FE
pregnant_woman_medium-light_skin_tone=1F930.1F3FC pregnant_woman_medium_skin_tone=1F930.1F3FD
pretzel=1F968 prince=1F934 prince_dark_skin_tone=1F934.1F3FF prince_light_skin_tone=1F934.1F3FB
prince_medium-dark_skin_tone=1F934.1F3FE prince_medium-light_skin_tone=1F934.1F3FC
prince_medium_skin_tone=1F934.1F3FD princess=1F478 princess_dark_skin_tone=1F478.1F3FF
princess_light_skin_tone=1F478.1F3FB princess_medium-dark_skin_tone=1F478.1F3FE
princess_medium-light_skin_tone=1F478.1F3FC princess_medium_skin_tone=1F478.1F3FD printer=1F5A8
probing_cane=1F9AF prohibited=1F6AB puerto_rico=1F1F5.1F1F7 punch=1F44A purple_circle=1F7E3
purple_heart=1F49C purple_square=1F7EA purse=1F45B pushpin=1F4CC put_litter_in_its_place=1F6AE
qatar=1F1F6.1F1E6 question=2753 question_mark=2753 rabbit=1F430 rabbit2=1F407 rabbit_face=1F430
raccoon=1F99D racehorse=1F40E racing_car=1F3CE racing_motorcycle=1F3CD radio=1F4FB
radio_button=1F518 radioactive=2622 radioactive_sign=2622 rage=1F621 railway_car=1F683
railway_track=1F6E4 rainbow=1F308 rainbow_flag=1F3F3.FE0F.200D.1F308 raised_back_of_hand=1F91A
raised_back_of_hand_dark_skin_tone=1F91A.1F3FF raised_back_of_hand_light_skin_tone=1F91A.1F3FB
raised_back_of_hand_medium-dark_skin_tone=1F91A.1F3FE
raised_back_of_hand_medium-light_skin_tone=1F91A.1F3FC
raised_back_of_hand_medium_skin_tone=1F91A.1F3FD raised_fist=270A
raised_fist_dark_skin_tone=270A.1F3FF raised_fist_light_skin_tone=270A.1F3FB
raised_fist_medium-dark_skin_tone=270A.1F3FE raised_fist_medium-light_skin_tone=270A.1F3FC
raised_fist_medium_skin_tone=270A.1F3FD raised_hand=270B raised_hand_dark_skin_tone=270B.1F3FF
raised_hand_light_skin_tone=270B.1F3FB raised_hand_medium-dark_skin_tone=270B.1F3FE
raised_hand_medium-light_skin_tone=270B.1F3FC raised_hand_medium_skin_tone=270B.1F3FD
raised_hand_with_fingers_splayed=1F590
raised_hand_with_part_between_middle_and_ring_fingers=1F596 raised_hands=1F64C
raising_hand=1F64B raising_hands=1F64C raising_hands_dark_skin_tone=1F64C.1F3FF
raising_hands_light_skin_tone=1F64C.1F3FB raising_hands_medium-dark_skin_tone=1F64C.1F3FE
raising_hands_medium-light_skin_tone=1F64C.1F3FC raising_hands_medium_skin_tone=1F64C.1F3FD
ram=1F40F ramen=1F35C rat=1F400 razor=1FA92 receipt=1F9FE record_button=23FA recycle=267B
recycling_symbol=267B red-haired_man=1F468.200D.1F9B0 red-haired_woman=1F469.200D.1F9B0
red_apple=1F34E red_car=1F697 red_circle=1F534 red_envelope=1F9E7 red_hair=1F9B0 red_heart=2764
red_paper_lantern=1F3EE red_square=1F7E5 red_triangle_pointed_down=1F53B
red_triangle_pointed_up=1F53A regional_indicator_a=1F1E6 regional_indicator_b=1F1E7
regional_indicator_c=1F1E8 regional_indicator_d=1F1E9 regional_indicator_e=1F1EA
regional_indicator_f=1F1EB regional_indicator_g=1F1EC regional_indicator_h=1F1ED
regional_indicator_i=1F1EE regional_indicator_j=1F1EF regional_indicator_k=1F1F0
regional_indicator_l=1F1F1 regional_indicator_m=1F1F2 regional_indicator_n=1F1F3
regional_indicator_o=1F1F4 regional_indicator_p=1F1F5 regional_indicator_q=1F1F6
regional_indicator_r=1F1F7 regional_indicator_s=1F1F8 regional_indicator_symbol_letter_a=1F1E6
regional_indicator_symbol_letter_b=1F1E7 regional_indicator_symbol_letter_c=1F1E8
regional_indicator_symbol_letter_d=1F1E9 regional_indicator_symbol_letter_e=1F1EA
regional_indicator_symbol_letter_f=1F1EB regional_indicator_symbol_letter_g=1F1EC
regional_indicator_symbol_letter_h=1F1ED regional_indicator_symbol_letter_i=1F1EE
regional_indicator_symbol_letter_j=1F1EF regional_indicator_symbol_letter_k=1F1F0
regional_indicator_symbol_letter_l=1F1F1 regional_indicator_symbol_letter_m=1F1F2
regional_indicator_symbol_letter_n=1F1F3 regional_indicator_symbol_letter_o=1F1F4
regional_indicator_symbol_letter_p=1F1F5 regional_indicator_symbol_letter_q=1F1F6
regional_indicator_symbol_letter_r=1F1F7 regional_indicator_symbol_letter_s=1F1F8
regional_indicator_symbol_letter_t=1F1F9 regional_indicator_symbol_letter_u=1F1FA
regional_indicator_symbol_letter_v=1F1FB regional_indicator_symbol_letter_w=1F1FC
regional_indicator_symbol_letter_x=1F1FD regional_indicator_symbol_letter_y=1F1FE
regional_indicator_symbol_letter_z=1F1FF regional_indicator_t=1F1F9 regional_indicator_u=1F1FA
regional_indicator_v=1F1FB regional_indicator_w=1F1FC regional_indicator_x=1F1FD
regional_indicator_y=1F1FE regional_indicator_z=1F1FF registered=AE relaxed=263A relieved=1F60C
relieved_face=1F60C reminder_ribbon=1F397 repeat=1F501 repeat_button=1F501 repeat_one=1F502
repeat_single_button=1F502 rescue_worker’s_helmet=26D1 restroom=1F6BB reverse_button=25C0
reversed_hand_with_middle_finger_extended=1F595 revolving_hearts=1F49E rewind=23EA
rhinoceros=1F98F ribbon=1F380 rice=1F35A rice_ball=1F359 rice_cracker=1F358 rice_scene=1F391
right-facing_fist=1F91C right-facing_fist_dark_skin_tone=1F91C.1F3FF
right-facing_fist_light_skin_tone=1F91C.1F3FB
right-facing_fist_medium-dark_skin_tone=1F91C.1F3FE
right-facing_fist_medium-light_skin_tone=1F91C.1F3FC
right-facing_fist_medium_skin_tone=1F91C.1F3FD right_anger_bubble=1F5EF right_arrow=27A1
right_arrow_curving_down=2935 right_arrow_curving_left=21A9 right_arrow_curving_up=2934
ring=1F48D ringed_planet=1FA90 roasted_sweet_potato=1F360 robot=1F916 robot_face=1F916
rocket=1F680 roll_of_paper=1F9FB rolled-up_newspaper=1F5DE rolled__up_newspaper=1F5DE
roller_coaster=1F3A2 rolling_on_the_floor_laughing=1F923 romania=1F1F7.1F1F4 rooster=1F413
rose=1F339 rosette=1F3F5 rotating_light=1F6A8 round_pushpin=1F4CD rowboat=1F6A3
rugby_football=1F3C9 runner=1F3C3 running=1F3C3 running_shirt=1F3BD
running_shirt_with_sash=1F3BD running_shoe=1F45F russia=1F1F7.1F1FA rwanda=1F1F7.1F1FC
réunion=1F1F7.1F1EA sa=1F202 sad_but_relieved_face=1F625 safety_pin=1F9F7 safety_vest=1F9BA
sagittarius=2650 sailboat=26F5 sake=1F376 salt=1F9C2 samoa=1F1FC.1F1F8 san_marino=1F1F8.1F1F2
sandal=1F461 sandwich=1F96A santa=1F385 santa_claus=1F385
santa_claus_dark_skin_tone=1F385.1F3FF santa_claus_light_skin_tone=1F385.1F3FB
santa_claus_medium-dark_skin_tone=1F385.1F3FE santa_claus_medium-light_skin_tone=1F385.1F3FC
santa_claus_medium_skin_tone=1F385.1F3FD sari=1F97B satellite=1F4E1 satellite_antenna=1F4E1
satisfied=1F606 saudi_arabia=1F1F8.1F1E6 sauropod=1F995 saxophone=1F3B7 scales=2696 scarf=1F9E3
school=1F3EB school_backpack=1F392 school_satchel=1F392 scissors=2702 scorpio=264F
scorpion=1F982 scorpius=264F scotland=1F3F4.E0067.E0062.E0073.E0063.E0074.E007F scream=1F631
scream_cat=1F640 scroll=1F4DC seat=1F4BA secret=3299 see-no-evil_monkey=1F648 see_no_evil=1F648
seedling=1F331 selfie=1F933 selfie_dark_skin_tone=1F933.1F3FF
selfie_light_skin_tone=1F933.1F3FB selfie_medium-dark_skin_tone=1F933.1F3FE
selfie_medium-light_skin_tone=1F933.1F3FC selfie_medium_skin_tone=1F933.1F3FD
senegal=1F1F8.1F1F3 serbia=1F1F7.1F1F8 service_dog=1F415.200D.1F9BA seven=37.FE0F.20E3
seven-thirty=1F562 seven_o’clock=1F556 seychelles=1F1F8.1F1E8 shallow_pan_of_food=1F958
shamrock=2618 shark=1F988 shaved_ice=1F367 sheaf_of_rice=1F33E sheep=1F411 shell=1F41A
shield=1F6E1 shinto_shrine=26E9 ship=1F6A2 shirt=1F455 shit=1F4A9 shoe=1F45E
shooting_star=1F320 shopping_bags=1F6CD shopping_cart=1F6D2 shortcake=1F370 shorts=1FA73
shower=1F6BF shrimp=1F990 shuffle_tracks_button=1F500 shushing_face=1F92B
sierra_leone=1F1F8.1F1F1 sign_of_the_horns=1F918 sign_of_the_horns_dark_skin_tone=1F918.1F3FF
sign_of_the_horns_light_skin_tone=1F918.1F3FB
sign_of_the_horns_medium-dark_skin_tone=1F918.1F3FE
sign_of_the_horns_medium-light_skin_tone=1F918.1F3FC
sign_of_the_horns_medium_skin_tone=1F918.1F3FD signal_strength=1F4F6 singapore=1F1F8.1F1EC
sint_maarten=1F1F8.1F1FD six=36.FE0F.20E3 six-thirty=1F561 six_o’clock=1F555
six_pointed_star=1F52F skateboard=1F6F9 ski=1F3BF skier=26F7 skis=1F3BF skull=1F480
skull_and_crossbones=2620 skunk=1F9A8 sled=1F6F7 sleeping=1F634 sleeping_accommodation=1F6CC
sleeping_face=1F634 sleepy=1F62A sleepy_face=1F62A sleuth_or_spy=1F575
slightly_frowning_face=1F641 slightly_smiling_face=1F642 slot_machine=1F3B0 sloth=1F9A5
slovakia=1F1F8.1F1F0 slovenia=1F1F8.1F1EE small_airplane=1F6E9 small_blue_diamond=1F539
small_orange_diamond=1F538 small_red_triangle=1F53A small_red_triangle_down=1F53B smile=1F604
smile_cat=1F638 smiley=1F603 smiley_cat=1F63A smiling_cat_face_with_heart-eyes=1F63B
smiling_face=263A smiling_face_with_3_hearts=1F970 smiling_face_with_halo=1F607
smiling_face_with_heart-eyes=1F60D smiling_face_with_horns=1F608
smiling_face_with_smiling_eyes=1F60A smiling_face_with_sunglasses=1F60E smiling_imp=1F608
smirk=1F60F smirk_cat=1F63C smirking_face=1F60F smoking=1F6AC snail=1F40C snake=1F40D
sneezing_face=1F927 snow-capped_mountain=1F3D4 snow_capped_mountain=1F3D4 snowboarder=1F3C2
snowboarder_dark_skin_tone=1F3C2.1F3FF snowboarder_light_skin_tone=1F3C2.1F3FB
snowboarder_medium-dark_skin_tone=1F3C2.1F3FE snowboarder_medium-light_skin_tone=1F3C2.1F3FC
snowboarder_medium_skin_tone=1F3C2.1F3FD snowflake=2744 snowman=2603 snowman_without_snow=26C4
soap=1F9FC sob=1F62D soccer=26BD soccer_ball=26BD socks=1F9E6 soft_ice_cream=1F366
softball=1F94E solomon_islands=1F1F8.1F1E7 somalia=1F1F8.1F1F4 soon=1F51C soon_arrow=1F51C
sos=1F198 sos_button=1F198 sound=1F509 south_africa=1F1FF.1F1E6
south_georgia_&_south_sandwich_islands=1F1EC.1F1F8 south_korea=1F1F0.1F1F7
south_sudan=1F1F8.1F1F8 space_invader=1F47E spade_suit=2660 spades=2660 spaghetti=1F35D
spain=1F1EA.1F1F8 sparkle=2747 sparkler=1F387 sparkles=2728 sparkling_heart=1F496
speak-no-evil_monkey=1F64A speak_no_evil=1F64A speaker=1F508 speaker_high_volume=1F50A
speaker_low_volume=1F508 speaker_medium_volume=1F509 speaking_head=1F5E3
speaking_head_in_silhouette=1F5E3 speech_balloon=1F4AC speedboat=1F6A4 spider=1F577
spider_web=1F578 spiral_calendar=1F5D3 spiral_calendar_pad=1F5D3 spiral_note_pad=1F5D2
spiral_notepad=1F5D2 spiral_shell=1F41A sponge=1F9FD spoon=1F944 sport_utility_vehicle=1F699
sports_medal=1F3C5 spouting_whale=1F433 squid=1F991 squinting_face_with_tongue=1F61D
sri_lanka=1F1F1.1F1F0 st._barthélemy=1F1E7.1F1F1 st._helena=1F1F8.1F1ED
st._kitts_&_nevis=1F1F0.1F1F3 st._lucia=1F1F1.1F1E8 st._martin=1F1F2.1F1EB
st._pierre_&_miquelon=1F1F5.1F1F2 st._vincent_&_grenadines=1F1FB.1F1E8 stadium=1F3DF star=2B50
star-struck=1F929 star2=1F31F star_and_crescent=262A star_of_david=2721 stars=1F320
station=1F689 statue_of_liberty=1F5FD steam_locomotive=1F682 steaming_bowl=1F35C
stethoscope=1FA7A stew=1F372 stop_button=23F9 stop_sign=1F6D1 stopwatch=23F1
straight_ruler=1F4CF strawberry=1F353 stuck_out_tongue=1F61B stuck_out_tongue_closed_eyes=1F61D
stuck_out_tongue_winking_eye=1F61C studio_microphone=1F399 stuffed_flatbread=1F959
sudan=1F1F8.1F1E9 sun=2600 sun_behind_cloud=26C5 sun_behind_large_cloud=1F325
sun_behind_rain_cloud=1F326 sun_behind_small_cloud=1F324 sun_with_face=1F31E sunflower=1F33B
sunglasses=1F60E sunny=2600 sunrise=1F305 sunrise_over_mountains=1F304 sunset=1F307
superhero=1F9B8 supervillain=1F9B9 surfer=1F3C4 suriname=1F1F8.1F1F7 sushi=1F363
suspension_railway=1F69F svalbard_&_jan_mayen=1F1F8.1F1EF swan=1F9A2 swaziland=1F1F8.1F1FF
sweat=1F613 sweat_droplets=1F4A6 sweat_drops=1F4A6 sweat_smile=1F605 sweden=1F1F8.1F1EA
sweet_potato=1F360 swimmer=1F3CA switzerland=1F1E8.1F1ED symbols=1F523 synagogue=1F54D
syria=1F1F8.1F1FE syringe=1F489 são_tomé_&_príncipe=1F1F8.1F1F9 t-rex=1F996 t-shirt=1F455
table_tennis_paddle_and_ball=1F3D3 taco=1F32E tada=1F389 taiwan=1F1F9.1F1FC
tajikistan=1F1F9.1F1EF takeout_box=1F961 tanabata_tree=1F38B tangerine=1F34A
tanzania=1F1F9.1F1FF taurus=2649 taxi=1F695 tea=1F375 teacup_without_handle=1F375
tear-off_calendar=1F4C6 teddy_bear=1F9F8 telephone=260E telephone_receiver=1F4DE
telescope=1F52D television=1F4FA ten=1F51F ten-thirty=1F565 ten_o’clock=1F559 tennis=1F3BE
tent=26FA test_tube=1F9EA thailand=1F1F9.1F1ED thermometer=1F321 thinking_face=1F914
thought_balloon=1F4AD thread=1F9F5 three=33.FE0F.20E3 three-thirty=1F55E
three_button_mouse=1F5B1 three_o’clock=1F552 thumbs_down=1F44E
thumbs_down_dark_skin_tone=1F44E.1F3FF thumbs_down_light_skin_tone=1F44E.1F3FB
thumbs_down_medium-dark_skin_tone=1F44E.1F3FE thumbs_down_medium-light_skin_tone=1F44E.1F3FC
thumbs_down_medium_skin_tone=1F44E.1F3FD thumbs_up=1F44D thumbs_up_dark_skin_tone=1F44D.1F3FF
thumbs_up_light_skin_tone=1F44D.1F3FB thumbs_up_medium-dark_skin_tone=1F44D.1F3FE
thumbs_up_medium-light_skin_tone=1F44D.1F3FC thumbs_up_medium_skin_tone=1F44D.1F3FD
thumbsdown=1F44E thumbsup=1F44D thunder_cloud_and_rain=26C8 ticket=1F3AB tiger=1F42F
tiger2=1F405 tiger_face=1F42F timer_clock=23F2 timor-leste=1F1F9.1F1F1 tired_face=1F62B tm=2122
togo=1F1F9.1F1EC toilet=1F6BD tokelau=1F1F9.1F1F0 tokyo_tower=1F5FC tomato=1F345
tonga=1F1F9.1F1F4 tongue=1F445 toolbox=1F9F0 tooth=1F9B7 top=1F51D top_arrow=1F51D
top_hat=1F3A9 tophat=1F3A9 tornado=1F32A trackball=1F5B2 tractor=1F69C trade_mark=2122
traffic_light=1F6A5 train=1F68B train2=1F686 tram=1F68A tram_car=1F68B triangular_flag=1F6A9
triangular_flag_on_post=1F6A9 triangular_ruler=1F4D0 trident=1F531 trident_emblem=1F531
trinidad_&_tobago=1F1F9.1F1F9 tristan_da_cunha=1F1F9.1F1E6 triumph=1F624 trolleybus=1F68E
trophy=1F3C6 tropical_drink=1F379 tropical_fish=1F420 truck=1F69A trumpet=1F3BA tshirt=1F455
tulip=1F337 tumbler_glass=1F943 tunisia=1F1F9.1F1F3 turkey=1F983 turkmenistan=1F1F9.1F1F2
turks_&_caicos_islands=1F1F9.1F1E8 turtle=1F422 tuvalu=1F1F9.1F1FB tv=1F4FA twelve-thirty=1F567
twelve_o’clock=1F55B twisted_rightwards_arrows=1F500 two=32.FE0F.20E3 two-hump_camel=1F42B
two-thirty=1F55D two_hearts=1F495 two_men_holding_hands=1F46C two_o’clock=1F551
two_women_holding_hands=1F46D u.s._outlying_islands=1F1FA.1F1F2 u.s._virgin_islands=1F1FB.1F1EE
u5272=1F239 u5408=1F234 u55b6=1F23A u6307=1F22F u6708=1F237 u6709=1F236 u6e80=1F235 u7121=1F21A
u7533=1F238 u7981=1F232 u7a7a=1F233 uganda=1F1FA.1F1EC ukraine=1F1FA.1F1E6 umbrella=2602
umbrella_on_ground=26F1 umbrella_with_rain_drops=2614 unamused=1F612 unamused_face=1F612
underage=1F51E unicorn_face=1F984 united_arab_emirates=1F1E6.1F1EA united_kingdom=1F1EC.1F1E7
united_nations=1F1FA.1F1F3 united_states=1F1FA.1F1F8 unlock=1F513 unlocked=1F513 up=1F199
up!_button=1F199 up-down_arrow=2195 up-left_arrow=2196 up-right_arrow=2197 up_arrow=2B06
upside-down_face=1F643 upside__down_face=1F643 upwards_button=1F53C uruguay=1F1FA.1F1FE
uzbekistan=1F1FA.1F1FF v=270C vampire=1F9DB vampire_dark_skin_tone=1F9DB.1F3FF
vampire_light_skin_tone=1F9DB.1F3FB vampire_medium-dark_skin_tone=1F9DB.1F3FE
vampire_medium-light_skin_tone=1F9DB.1F3FC vampire_medium_skin_tone=1F9DB.1F3FD
vanuatu=1F1FB.1F1FA vatican_city=1F1FB.1F1E6 venezuela=1F1FB.1F1EA vertical_traffic_light=1F6A6
vhs=1F4FC vibration_mode=1F4F3 victory_hand=270C victory_hand_dark_skin_tone=270C.1F3FF
victory_hand_light_skin_tone=270C.1F3FB victory_hand_medium-dark_skin_tone=270C.1F3FE
victory_hand_medium-light_skin_tone=270C.1F3FC victory_hand_medium_skin_tone=270C.1F3FD
video_camera=1F4F9 video_game=1F3AE videocassette=1F4FC vietnam=1F1FB.1F1F3 violin=1F3BB
virgo=264D volcano=1F30B volleyball=1F3D0 vs=1F19A vs_button=1F19A vulcan_salute=1F596
vulcan_salute_dark_skin_tone=1F596.1F3FF vulcan_salute_light_skin_tone=1F596.1F3FB
vulcan_salute_medium-dark_skin_tone=1F596.1F3FE
vulcan_salute_medium-light_skin_tone=1F596.1F3FC vulcan_salute_medium_skin_tone=1F596.1F3FD
waffle=1F9C7 wales=1F3F4.E0067.E0062.E0077.E006C.E0073.E007F walking=1F6B6
wallis_&_futuna=1F1FC.1F1EB waning_crescent_moon=1F318 waning_gibbous_moon=1F316 warning=26A0
wastebasket=1F5D1 watch=231A water_buffalo=1F403 water_closet=1F6BE water_wave=1F30A
watermelon=1F349 wave=1F44B waving_black_flag=1F3F4 waving_hand=1F44B
waving_hand_dark_skin_tone=1F44B.1F3FF waving_hand_light_skin_tone=1F44B.1F3FB
waving_hand_medium-dark_skin_tone=1F44B.1F3FE waving_hand_medium-light_skin_tone=1F44B.1F3FC
waving_hand_medium_skin_tone=1F44B.1F3FD waving_white_flag=1F3F3 wavy_dash=3030
waxing_crescent_moon=1F312 waxing_gibbous_moon=1F314 wc=1F6BE weary=1F629 weary_cat_face=1F640
weary_face=1F629 wedding=1F492 weight_lifter=1F3CB western_sahara=1F1EA.1F1ED whale=1F433
whale2=1F40B wheel_of_dharma=2638 wheelchair=267F wheelchair_symbol=267F
white-haired_man=1F468.200D.1F9B3 white-haired_woman=1F469.200D.1F9B3 white_check_mark=2705
white_circle=26AA white_exclamation_mark=2755 white_flag=1F3F3 white_flower=1F4AE
white_frowning_face=2639 white_hair=1F9B3 white_heart=1F90D white_heavy_check_mark=2705
white_large_square=2B1C white_medium-small_square=25FD white_medium_small_square=25FD
white_medium_square=25FB white_medium_star=2B50 white_question_mark=2754
white_small_square=25AB white_square_button=1F533 white_sun_behind_cloud=1F325
white_sun_behind_cloud_with_rain=1F326 white_sun_with_small_cloud=1F324 wilted_flower=1F940
wind_blowing_face=1F32C wind_chime=1F390 wind_face=1F32C wine_glass=1F377 wink=1F609
winking_face=1F609 winking_face_with_tongue=1F61C wolf=1F43A wolf_face=1F43A woman=1F469
woman_artist=1F469.200D.1F3A8 woman_artist_dark_skin_tone=1F469.1F3FF.200D.1F3A8
woman_artist_light_skin_tone=1F469.1F3FB.200D.1F3A8
woman_artist_medium-dark_skin_tone=1F469.1F3FE.200D.1F3A8
woman_artist_medium-light_skin_tone=1F469.1F3FC.200D.1F3A8
woman_artist_medium_skin_tone=1F469.1F3FD.200D.1F3A8 woman_astronaut=1F469.200D.1F680
woman_astronaut_dark_skin_tone=1F469.1F3FF.200D.1F680
woman_astronaut_light_skin_tone=1F469.1F3FB.200D.1F680
woman_astronaut_medium-dark_skin_tone=1F469.1F3FE.200D.1F680
woman_astronaut_medium-light_skin_tone=1F469.1F3FC.200D.1F680
woman_astronaut_medium_skin_tone=1F469.1F3FD.200D.1F680 woman_biking=1F6B4.200D.2640.FE0F
woman_biking_dark_skin_tone=1F6B4.1F3FF.200D.2640.FE0F
woman_biking_light_skin_tone=1F6B4.1F3FB.200D.2640.FE0F
woman_biking_medium-dark_skin_tone=1F6B4.1F3FE.200D.2640.FE0F
woman_biking_medium-light_skin_tone=1F6B4.1F3FC.200D.2640.FE0F
woman_biking_medium_skin_tone=1F6B4.1F3FD.200D.2640.FE0F
woman_bouncing_ball=26F9.FE0F.200D.2640.FE0F
woman_bouncing_ball_dark_skin_tone=26F9.1F3FF.200D.2640.FE0F
woman_bouncing_ball_light_skin_tone=26F9.1F3FB.200D.2640.FE0F
woman_bouncing_ball_medium-dark_skin_tone=26F9.1F3FE.200D.2640.FE0F
woman_bouncing_ball_medium-light_skin_tone=26F9.1F3FC.200D.2640.FE0F
woman_bouncing_ball_medium_skin_tone=26F9.1F3FD.200D.2640.FE0F
woman_bowing=1F647.200D.2640.FE0F woman_bowing_dark_skin_tone=1F647.1F3FF.200D.2640.FE0F
woman_bowing_light_skin_tone=1F647.1F3FB.200D.2640.FE0F
woman_bowing_medium-dark_skin_tone=1F647.1F3FE.200D.2640.FE0F
woman_bowing_medium-light_skin_tone=1F647.1F3FC.200D.2640.FE0F
woman_bowing_medium_skin_tone=1F647.1F3FD.200D.2640.FE0F
woman_cartwheeling=1F938.200D.2640.FE0F
woman_cartwheeling_dark_skin_tone=1F938.1F3FF.200D.2640.FE0F
woman_cartwheeling_light_skin_tone=1F938.1F3FB.200D.2640.FE0F
woman_cartwheeling_medium-dark_skin_tone=1F938.1F3FE.200D.2640.FE0F
woman_cartwheeling_medium-light_skin_tone=1F938.1F3FC.200D.2640.FE0F
woman_cartwheeling_medium_skin_tone=1F938.1F3FD.200D.2640.FE0F
woman_climbing=1F9D7.200D.2640.FE0F woman_climbing_dark_skin_tone=1F9D7.1F3FF.200D.2640.FE0F
woman_climbing_light_skin_tone=1F9D7.1F3FB.200D.2640.FE0F
woman_climbing_medium-dark_skin_tone=1F9D7.1F3FE.200D.2640.FE0F
woman_climbing_medium-light_skin_tone=1F9D7.1F3FC.200D.2640.FE0F
woman_climbing_medium_skin_tone=1F9D7.1F3FD.200D.2640.FE0F
woman_construction_worker=1F477.200D.2640.FE0F
woman_construction_worker_dark_skin_tone=1F477.1F3FF.200D.2640.FE0F
woman_construction_worker_light_skin_tone=1F477.1F3FB.200D.2640.FE0F
woman_construction_worker_medium-dark_skin_tone=1F477.1F3FE.200D.2640.FE0F
woman_construction_worker_medium-light_skin_tone=1F477.1F3FC.200D.2640.FE0F
woman_construction_worker_medium_skin_tone=1F477.1F3FD.200D.2640.FE0F
woman_cook=1F469.200D.1F373 woman_cook_dark_skin_tone=1F469.1F3FF.200D.1F373
woman_cook_light_skin_tone=1F469.1F3FB.200D.1F373
woman_cook_medium-dark_skin_tone=1F469.1F3FE.200D.1F373
woman_cook_medium-light_skin_tone=1F469.1F3FC.200D.1F373
woman_cook_medium_skin_tone=1F469.1F3FD.200D.1F373 woman_dancing=1F483
woman_dancing_dark_skin_tone=1F483.1F3FF woman_dancing_light_skin_tone=1F483.1F3FB
woman_dancing_medium-dark_skin_tone=1F483.1F3FE
woman_dancing_medium-light_skin_tone=1F483.1F3FC woman_dancing_medium_skin_tone=1F483.1F3FD
woman_dark_skin_tone=1F469.1F3FF woman_detective=1F575.FE0F.200D.2640.FE0F
woman_detective_dark_skin_tone=1F575.1F3FF.200D.2640.FE0F
woman_detective_light_skin_tone=1F575.1F3FB.200D.2640.FE0F
woman_detective_medium-dark_skin_tone=1F575.1F3FE.200D.2640.FE0F
woman_detective_medium-light_skin_tone=1F575.1F3FC.200D.2640.FE0F
woman_detective_medium_skin_tone=1F575.1F3FD.200D.2640.FE0F woman_elf=1F9DD.200D.2640.FE0F
woman_elf_dark_skin_tone=1F9DD.1F3FF.200D.2640.FE0F
woman_elf_light_skin_tone=1F9DD.1F3FB.200D.2640.FE0F
woman_elf_medium-dark_skin_tone=1F9DD.1F3FE.200D.2640.FE0F
woman_elf_medium-light_skin_tone=1F9DD.1F3FC.200D.2640.FE0F
woman_elf_medium_skin_tone=1F9DD.1F3FD.200D.2640.FE0F woman_facepalming=1F926.200D.2640.FE0F
woman_facepalming_dark_skin_tone=1F926.1F3FF.200D.2640.FE0F
woman_facepalming_light_skin_tone=1F926.1F3FB.200D.2640.FE0F
woman_facepalming_medium-dark_skin_tone=1F926.1F3FE.200D.2640.FE0F
woman_facepalming_medium-light_skin_tone=1F926.1F3FC.200D.2640.FE0F
woman_facepalming_medium_skin_tone=1F926.1F3FD.200D.2640.FE0F
woman_factory_worker=1F469.200D.1F3ED
woman_factory_worker_dark_skin_tone=1F469.1F3FF.200D.1F3ED
woman_factory_worker_light_skin_tone=1F469.1F3FB.200D.1F3ED
woman_factory_worker_medium-dark_skin_tone=1F469.1F3FE.200D.1F3ED
woman_factory_worker_medium-light_skin_tone=1F469.1F3FC.200D.1F3ED
woman_factory_worker_medium_skin_tone=1F469.1F3FD.200D.1F3ED woman_fairy=1F9DA.200D.2640.FE0F
woman_fairy_dark_skin_tone=1F9DA.1F3FF.200D.2640.FE0F
woman_fairy_light_skin_tone=1F9DA.1F3FB.200D.2640.FE0F
woman_fairy_medium-dark_skin_tone=1F9DA.1F3FE.200D.2640.FE0F
woman_fairy_medium-light_skin_tone=1F9DA.1F3FC.200D.2640.FE0F
woman_fairy_medium_skin_tone=1F9DA.1F3FD.200D.2640.FE0F woman_farmer=1F469.200D.1F33E
woman_farmer_dark_skin_tone=1F469.1F3FF.200D.1F33E
woman_farmer_light_skin_tone=1F469.1F3FB.200D.1F33E
woman_farmer_medium-dark_skin_tone=1F469.1F3FE.200D.1F33E
woman_farmer_medium-light_skin_tone=1F469.1F3FC.200D.1F33E
woman_farmer_medium_skin_tone=1F469.1F3FD.200D.1F33E woman_firefighter=1F469.200D.1F692
woman_firefighter_dark_skin_tone=1F469.1F3FF.200D.1F692
woman_firefighter_light_skin_tone=1F469.1F3FB.200D.1F692
woman_firefighter_medium-dark_skin_tone=1F469.1F3FE.200D.1F692
woman_firefighter_medium-light_skin_tone=1F469.1F3FC.200D.1F692
woman_firefighter_medium_skin_tone=1F469.1F3FD.200D.1F692 woman_frowning=1F64D.200D.2640.FE0F
woman_frowning_dark_skin_tone=1F64D.1F3FF.200D.2640.FE0F
woman_frowning_light_skin_tone=1F64D.1F3FB.200D.2640.FE0F
woman_frowning_medium-dark_skin_tone=1F64D.1F3FE.200D.2640.FE0F
woman_frowning_medium-light_skin_tone=1F64D.1F3FC.200D.2640.FE0F
woman_frowning_medium_skin_tone=1F64D.1F3FD.200D.2640.FE0F woman_genie=1F9DE.200D.2640.FE0F
woman_gesturing_no=1F645.200D.2640.FE0F
woman_gesturing_no_dark_skin_tone=1F645.1F3FF.200D.2640.FE0F
woman_gesturing_no_light_skin_tone=1F645.1F3FB.200D.2640.FE0F
woman_gesturing_no_medium-dark_skin_tone=1F645.1F3FE.200D.2640.FE0F
woman_gesturing_no_medium-light_skin_tone=1F645.1F3FC.200D.2640.FE0F
woman_gesturing_no_medium_skin_tone=1F645.1F3FD.200D.2640.FE0F
woman_gesturing_ok=1F646.200D.2640.FE0F
woman_gesturing_ok_dark_skin_tone=1F646.1F3FF.200D.2640.FE0F
woman_gesturing_ok_light_skin_tone=1F646.1F3FB.200D.2640.FE0F
woman_gesturing_ok_medium-dark_skin_tone=1F646.1F3FE.200D.2640.FE0F
woman_gesturing_ok_medium-light_skin_tone=1F646.1F3FC.200D.2640.FE0F
woman_gesturing_ok_medium_skin_tone=1F646.1F3FD.200D.2640.FE0F
woman_getting_haircut=1F487.200D.2640.FE0F
woman_getting_haircut_dark_skin_tone=1F487.1F3FF.200D.2640.FE0F
woman_getting_haircut_light_skin_tone=1F487.1F3FB.200D.2640.FE0F
woman_getting_haircut_medium-dark_skin_tone=1F487.1F3FE.200D.2640.FE0F
woman_getting_haircut_medium-light_skin_tone=1F487.1F3FC.200D.2640.FE0F
woman_getting_haircut_medium_skin_tone=1F487.1F3FD.200D.2640.FE0F
woman_getting_massage=1F486.200D.2640.FE0F
woman_getting_massage_dark_skin_tone=1F486.1F3FF.200D.2640.FE0F
woman_getting_massage_light_skin_tone=1F486.1F3FB.200D.2640.FE0F
woman_getting_massage_medium-dark_skin_tone=1F486.1F3FE.200D.2640.FE0F
woman_getting_massage_medium-light_skin_tone=1F486.1F3FC.200D.2640.FE0F
woman_getting_massage_medium_skin_tone=1F486.1F3FD.200D.2640.FE0F
woman_golfing=1F3CC.FE0F.200D.2640.FE0F woman_golfing_dark_skin_tone=1F3CC.1F3FF.200D.2640.FE0F
woman_golfing_light_skin_tone=1F3CC.1F3FB.200D.2640.FE0F
woman_golfing_medium-dark_skin_tone=1F3CC.1F3FE.200D.2640.FE0F
woman_golfing_medium-light_skin_tone=1F3CC.1F3FC.200D.2640.FE0F
woman_golfing_medium_skin_tone=1F3CC.1F3FD.200D.2640.FE0F woman_guard=1F482.200D.2640.FE0F
woman_guard_dark_skin_tone=1F482.1F3FF.200D.2640.FE0F
woman_guard_light_skin_tone=1F482.1F3FB.200D.2640.FE0F
woman_guard_medium-dark_skin_tone=1F482.1F3FE.200D.2640.FE0F
woman_guard_medium-light_skin_tone=1F482.1F3FC.200D.2640.FE0F
woman_guard_medium_skin_tone=1F482.1F3FD.200D.2640.FE0F
woman_health_worker=1F469.200D.2695.FE0F
woman_health_worker_dark_skin_tone=1F469.1F3FF.200D.2695.FE0F
woman_health_worker_light_skin_tone=1F469.1F3FB.200D.2695.FE0F
woman_health_worker_medium-dark_skin_tone=1F469.1F3FE.200D.2695.FE0F
woman_health_worker_medium-light_skin_tone=1F469.1F3FC.200D.2695.FE0F
woman_health_worker_medium_skin_tone=1F469.1F3FD.200D.2695.FE0F
woman_in_lotus_position=1F9D8.200D.2640.FE0F
woman_in_lotus_position_dark_skin_tone=1F9D8.1F3FF.200D.2640.FE0F
woman_in_lotus_position_light_skin_tone=1F9D8.1F3FB.200D.2640.FE0F
woman_in_lotus_position_medium-dark_skin_tone=1F9D8.1F3FE.200D.2640.FE0F
woman_in_lotus_position_medium-light_skin_tone=1F9D8.1F3FC.200D.2640.FE0F
woman_in_lotus_position_medium_skin_tone=1F9D8.1F3FD.200D.2640.FE0F
woman_in_manual_wheelchair=1F469.200D.1F9BD woman_in_motorized_wheelchair=1F469.200D.1F9BC
woman_in_steamy_room=1F9D6.200D.2640.FE0F
woman_in_steamy_room_dark_skin_tone=1F9D6.1F3FF.200D.2640.FE0F
woman_in_steamy_room_light_skin_tone=1F9D6.1F3FB.200D.2640.FE0F
woman_in_steamy_room_medium-dark_skin_tone=1F9D6.1F3FE.200D.2640.FE0F
woman_in_steamy_room_medium-light_skin_tone=1F9D6.1F3FC.200D.2640.FE0F
woman_in_steamy_room_medium_skin_tone=1F9D6.1F3FD.200D.2640.FE0F
woman_judge=1F469.200D.2696.FE0F woman_judge_dark_skin_tone=1F469.1F3FF.200D.2696.FE0F
woman_judge_light_skin_tone=1F469.1F3FB.200D.2696.FE0F
woman_judge_medium-dark_skin_tone=1F469.1F3FE.200D.2696.FE0F
woman_judge_medium-light_skin_tone=1F469.1F3FC.200D.2696.FE0F
woman_judge_medium_skin_tone=1F469.1F3FD.200D.2696.FE0F woman_juggling=1F939.200D.2640.FE0F
woman_juggling_dark_skin_tone=1F939.1F3FF.200D.2640.FE0F
woman_juggling_light_skin_tone=1F939.1F3FB.200D.2640.FE0F
woman_juggling_medium-dark_skin_tone=1F939.1F3FE.200D.2640.FE0F
woman_juggling_medium-light_skin_tone=1F939.1F3FC.200D.2640.FE0F
woman_juggling_medium_skin_tone=1F939.1F3FD.200D.2640.FE0F
woman_lifting_weights=1F3CB.FE0F.200D.2640.FE0F
woman_lifting_weights_dark_skin_tone=1F3CB.1F3FF.200D.2640.FE0F
woman_lifting_weights_light_skin_tone=1F3CB.1F3FB.200D.2640.FE0F
woman_lifting_weights_medium-dark_skin_tone=1F3CB.1F3FE.200D.2640.FE0F
woman_lifting_weights_medium-light_skin_tone=1F3CB.1F3FC.200D.2640.FE0F
woman_lifting_weights_medium_skin_tone=1F3CB.1F3FD.200D.2640.FE0F
woman_light_skin_tone=1F469.1F3FB woman_mage=1F9D9.200D.2640.FE0F
woman_mage_dark_skin_tone=1F9D9.1F3FF.200D.2640.FE0F
woman_mage_light_skin_tone=1F9D9.1F3FB.200D.2640.FE0F
woman_mage_medium-dark_skin_tone=1F9D9.1F3FE.200D.2640.FE0F
woman_mage_medium-light_skin_tone=1F9D9.1F3FC.200D.2640.FE0F
woman_mage_medium_skin_tone=1F9D9.1F3FD.200D.2640.FE0F woman_mechanic=1F469.200D.1F527
woman_mechanic_dark_skin_tone=1F469.1F3FF.200D.1F527
woman_mechanic_light_skin_tone=1F469.1F3FB.200D.1F527
woman_mechanic_medium-dark_skin_tone=1F469.1F3FE.200D.1F527
woman_mechanic_medium-light_skin_tone=1F469.1F3FC.200D.1F527
woman_mechanic_medium_skin_tone=1F469.1F3FD.200D.1F527 woman_medium-dark_skin_tone=1F469.1F3FE
woman_medium-light_skin_tone=1F469.1F3FC woman_medium_skin_tone=1F469.1F3FD
woman_mountain_biking=1F6B5.200D.2640.FE0F
woman_mountain_biking_dark_skin_tone=1F6B5.1F3FF.200D.2640.FE0F
woman_mountain_biking_light_skin_tone=1F6B5.1F3FB.200D.2640.FE0F
woman_mountain_biking_medium-dark_skin_tone=1F6B5.1F3FE.200D.2640.FE0F
woman_mountain_biking_medium-light_skin_tone=1F6B5.1F3FC.200D.2640.FE0F
woman_mountain_biking_medium_skin_tone=1F6B5.1F3FD.200D.2640.FE0F
woman_office_worker=1F469.200D.1F4BC woman_office_worker_dark_skin_tone=1F469.1F3FF.200D.1F4BC
woman_office_worker_light_skin_tone=1F469.1F3FB.200D.1F4BC
woman_office_worker_medium-dark_skin_tone=1F469.1F3FE.200D.1F4BC
woman_office_worker_medium-light_skin_tone=1F469.1F3FC.200D.1F4BC
woman_office_worker_medium_skin_tone=1F469.1F3FD.200D.1F4BC woman_pilot=1F469.200D.2708.FE0F
woman_pilot_dark_skin_tone=1F469.1F3FF.200D.2708.FE0F
woman_pilot_light_skin_tone=1F469.1F3FB.200D.2708.FE0F
woman_pilot_medium-dark_skin_tone=1F469.1F3FE.200D.2708.FE0F
woman_pilot_medium-light_skin_tone=1F469.1F3FC.200D.2708.FE0F
woman_pilot_medium_skin_tone=1F469.1F3FD.200D.2708.FE0F
woman_playing_handball=1F93E.200D.2640.FE0F
woman_playing_handball_dark_skin_tone=1F93E.1F3FF.200D.2640.FE0F
woman_playing_handball_light_skin_tone=1F93E.1F3FB.200D.2640.FE0F
woman_playing_handball_medium-dark_skin_tone=1F93E.1F3FE.200D.2640.FE0F
woman_playing_handball_medium-light_skin_tone=1F93E.1F3FC.200D.2640.FE0F
woman_playing_handball_medium_skin_tone=1F93E.1F3FD.200D.2640.FE0F
woman_playing_water_polo=1F93D.200D.2640.FE0F
woman_playing_water_polo_dark_skin_tone=1F93D.1F3FF.200D.2640.FE0F
woman_playing_water_polo_light_skin_tone=1F93D.1F3FB.200D.2640.FE0F
woman_playing_water_polo_medium-dark_skin_tone=1F93D.1F3FE.200D.2640.FE0F
woman_playing_water_polo_medium-light_skin_tone=1F93D.1F3FC.200D.2640.FE0F
woman_playing_water_polo_medium_skin_tone=1F93D.1F3FD.200D.2640.FE0F
woman_police_officer=1F46E.200D.2640.FE0F
woman_police_officer_dark_skin_tone=1F46E.1F3FF.200D.2640.FE0F
woman_police_officer_light_skin_tone=1F46E.1F3FB.200D.2640.FE0F
woman_police_officer_medium-dark_skin_tone=1F46E.1F3FE.200D.2640.FE0F
woman_police_officer_medium-light_skin_tone=1F46E.1F3FC.200D.2640.FE0F
woman_police_officer_medium_skin_tone=1F46E.1F3FD.200D.2640.FE0F
woman_pouting=1F64E.200D.2640.FE0F woman_pouting_dark_skin_tone=1F64E.1F3FF.200D.2640.FE0F
woman_pouting_light_skin_tone=1F64E.1F3FB.200D.2640.FE0F
woman_pouting_medium-dark_skin_tone=1F64E.1F3FE.200D.2640.FE0F
woman_pouting_medium-light_skin_tone=1F64E.1F3FC.200D.2640.FE0F
woman_pouting_medium_skin_tone=1F64E.1F3FD.200D.2640.FE0F
woman_raising_hand=1F64B.200D.2640.FE0F
woman_raising_hand_dark_skin_tone=1F64B.1F3FF.200D.2640.FE0F
woman_raising_hand_light_skin_tone=1F64B.1F3FB.200D.2640.FE0F
woman_raising_hand_medium-dark_skin_tone=1F64B.1F3FE.200D.2640.FE0F
woman_raising_hand_medium-light_skin_tone=1F64B.1F3FC.200D.2640.FE0F
woman_raising_hand_medium_skin_tone=1F64B.1F3FD.200D.2640.FE0F
woman_rowing_boat=1F6A3.200D.2640.FE0F
woman_rowing_boat_dark_skin_tone=1F6A3.1F3FF.200D.2640.FE0F
woman_rowing_boat_light_skin_tone=1F6A3.1F3FB.200D.2640.FE0F
woman_rowing_boat_medium-dark_skin_tone=1F6A3.1F3FE.200D.2640.FE0F
woman_rowing_boat_medium-light_skin_tone=1F6A3.1F3FC.200D.2640.FE0F
woman_rowing_boat_medium_skin_tone=1F6A3.1F3FD.200D.2640.FE0F
woman_running=1F3C3.200D.2640.FE0F woman_running_dark_skin_tone=1F3C3.1F3FF.200D.2640.FE0F
woman_running_light_skin_tone=1F3C3.1F3FB.200D.2640.FE0F
woman_running_medium-dark_skin_tone=1F3C3.1F3FE.200D.2640.FE0F
woman_running_medium-light_skin_tone=1F3C3.1F3FC.200D.2640.FE0F
woman_running_medium_skin_tone=1F3C3.1F3FD.200D.2640.FE0F woman_scientist=1F469.200D.1F52C
woman_scientist_dark_skin_tone=1F469.1F3FF.200D.1F52C
woman_scientist_light_skin_tone=1F469.1F3FB.200D.1F52C
woman_scientist_medium-dark_skin_tone=1F469.1F3FE.200D.1F52C
woman_scientist_medium-light_skin_tone=1F469.1F3FC.200D.1F52C
woman_scientist_medium_skin_tone=1F469.1F3FD.200D.1F52C woman_shrugging=1F937.200D.2640.FE0F
woman_shrugging_dark_skin_tone=1F937.1F3FF.200D.2640.FE0F
woman_shrugging_light_skin_tone=1F937.1F3FB.200D.2640.FE0F
woman_shrugging_medium-dark_skin_tone=1F937.1F3FE.200D.2640.FE0F
woman_shrugging_medium-light_skin_tone=1F937.1F3FC.200D.2640.FE0F
woman_shrugging_medium_skin_tone=1F937.1F3FD.200D.2640.FE0F woman_singer=1F469.200D.1F3A4
woman_singer_dark_skin_tone=1F469.1F3FF.200D.1F3A4
woman_singer_light_skin_tone=1F469.1F3FB.200D.1F3A4
woman_singer_medium-dark_skin_tone=1F469.1F3FE.200D.1F3A4
woman_singer_medium-light_skin_tone=1F469.1F3FC.200D.1F3A4
woman_singer_medium_skin_tone=1F469.1F3FD.200D.1F3A4 woman_student=1F469.200D.1F393
woman_student_dark_skin_tone=1F469.1F3FF.200D.1F393
woman_student_light_skin_tone=1F469.1F3FB.200D.1F393
woman_student_medium-dark_skin_tone=1F469.1F3FE.200D.1F393
woman_student_medium-light_skin_tone=1F469.1F3FC.200D.1F393
woman_student_medium_skin_tone=1F469.1F3FD.200D.1F393 woman_surfing=1F3C4.200D.2640.FE0F
woman_surfing_dark_skin_tone=1F3C4.1F3FF.200D.2640.FE0F
woman_surfing_light_skin_tone=1F3C4.1F3FB.200D.2640.FE0F
woman_surfing_medium-dark_skin_tone=1F3C4.1F3FE.200D.2640.FE0F
woman_surfing_medium-light_skin_tone=1F3C4.1F3FC.200D.2640.FE0F
woman_surfing_medium_skin_tone=1F3C4.1F3FD.200D.2640.FE0F woman_swimming=1F3CA.200D.2640.FE0F
woman_swimming_dark_skin_tone=1F3CA.1F3FF.200D.2640.FE0F
woman_swimming_light_skin_tone=1F3CA.1F3FB.200D.2640.FE0F
woman_swimming_medium-dark_skin_tone=1F3CA.1F3FE.200D.2640.FE0F
woman_swimming_medium-light_skin_tone=1F3CA.1F3FC.200D.2640.FE0F
woman_swimming_medium_skin_tone=1F3CA.1F3FD.200D.2640.FE0F woman_teacher=1F469.200D.1F3EB
woman_teacher_dark_skin_tone=1F469.1F3FF.200D.1F3EB
woman_teacher_light_skin_tone=1F469.1F3FB.200D.1F3EB
woman_teacher_medium-dark_skin_tone=1F469.1F3FE.200D.1F3EB
woman_teacher_medium-light_skin_tone=1F469.1F3FC.200D.1F3EB
woman_teacher_medium_skin_tone=1F469.1F3FD.200D.1F3EB woman_technologist=1F469.200D.1F4BB
woman_technologist_dark_skin_tone=1F469.1F3FF.200D.1F4BB
woman_technologist_light_skin_tone=1F469.1F3FB.200D.1F4BB
woman_technologist_medium-dark_skin_tone=1F469.1F3FE.200D.1F4BB
woman_technologist_medium-light_skin_tone=1F469.1F3FC.200D.1F4BB
woman_technologist_medium_skin_tone=1F469.1F3FD.200D.1F4BB
woman_tipping_hand=1F481.200D.2640.FE0F
woman_tipping_hand_dark_skin_tone=1F481.1F3FF.200D.2640.FE0F
woman_tipping_hand_light_skin_tone=1F481.1F3FB.200D.2640.FE0F
woman_tipping_hand_medium-dark_skin_tone=1F481.1F3FE.200D.2640.FE0F
woman_tipping_hand_medium-light_skin_tone=1F481.1F3FC.200D.2640.FE0F
woman_tipping_hand_medium_skin_tone=1F481.1F3FD.200D.2640.FE0F
woman_vampire=1F9DB.200D.2640.FE0F woman_vampire_dark_skin_tone=1F9DB.1F3FF.200D.2640.FE0F
woman_vampire_light_skin_tone=1F9DB.1F3FB.200D.2640.FE0F
woman_vampire_medium-dark_skin_tone=1F9DB.1F3FE.200D.2640.FE0F
woman_vampire_medium-light_skin_tone=1F9DB.1F3FC.200D.2640.FE0F
woman_vampire_medium_skin_tone=1F9DB.1F3FD.200D.2640.FE0F woman_walking=1F6B6.200D.2640.FE0F
woman_walking_dark_skin_tone=1F6B6.1F3FF.200D.2640.FE0F
woman_walking_light_skin_tone=1F6B6.1F3FB.200D.2640.FE0F
woman_walking_medium-dark_skin_tone=1F6B6.1F3FE.200D.2640.FE0F
woman_walking_medium-light_skin_tone=1F6B6.1F3FC.200D.2640.FE0F
woman_walking_medium_skin_tone=1F6B6.1F3FD.200D.2640.FE0F
woman_wearing_turban=1F473.200D.2640.FE0F
woman_wearing_turban_dark_skin_tone=1F473.1F3FF.200D.2640.FE0F
woman_wearing_turban_light_skin_tone=1F473.1F3FB.200D.2640.FE0F
woman_wearing_turban_medium-dark_skin_tone=1F473.1F3FE.200D.2640.FE0F
woman_wearing_turban_medium-light_skin_tone=1F473.1F3FC.200D.2640.FE0F
woman_wearing_turban_medium_skin_tone=1F473.1F3FD.200D.2640.FE0F woman_with_headscarf=1F9D5
woman_with_headscarf_dark_skin_tone=1F9D5.1F3FF
woman_with_headscarf_light_skin_tone=1F9D5.1F3FB
woman_with_headscarf_medium-dark_skin_tone=1F9D5.1F3FE
woman_with_headscarf_medium-light_skin_tone=1F9D5.1F3FC
woman_with_headscarf_medium_skin_tone=1F9D5.1F3FD woman_with_probing_cane=1F469.200D.1F9AF
woman_zombie=1F9DF.200D.2640.FE0F womans_clothes=1F45A womans_hat=1F452 woman’s_boot=1F462
woman’s_clothes=1F45A woman’s_hat=1F452 woman’s_sandal=1F461
women_with_bunny_ears=1F46F.200D.2640.FE0F women_wrestling=1F93C.200D.2640.FE0F womens=1F6BA
women’s_room=1F6BA woozy_face=1F974 world_map=1F5FA worried=1F61F worried_face=1F61F
wrapped_gift=1F381 wrench=1F527 writing_hand=270D writing_hand_dark_skin_tone=270D.1F3FF
writing_hand_light_skin_tone=270D.1F3FB writing_hand_medium-dark_skin_tone=270D.1F3FE
writing_hand_medium-light_skin_tone=270D.1F3FC writing_hand_medium_skin_tone=270D.1F3FD x=274C
yarn=1F9F6 yawning_face=1F971 yellow_circle=1F7E1 yellow_heart=1F49B yellow_square=1F7E8
yemen=1F1FE.1F1EA yen=1F4B4 yen_banknote=1F4B4 yin_yang=262F yo-yo=1FA80 yum=1F60B
zambia=1F1FF.1F1F2 zany_face=1F92A zap=26A1 zebra=1F993 zero=30.FE0F.20E3 zimbabwe=1F1FF.1F1FC
zipper-mouth_face=1F910 zipper__mouth_face=1F910 zombie=1F9DF zzz=1F4A4
åland_islands=1F1E6.1F1FD"

end Crosslink.Console
